import BenchLog.Proofs.Cells
import BenchLog.Proofs.Loop
import BenchLog.Proofs.Numerals

/-!
# Reading a flat record back

`Json.Reader` takes a record apart character by character, if each name stands without escapes and each value
without quotes and brackets, and keeps the text of each value as it is written. Every layout that puts nothing
but spaces and line feeds between names and values is read alike (`Json.Reader.read_record`).
-/

namespace BenchLog.Json

/-- Whether the value is written without quotes and brackets. -/
def isBare : Json → Bool
  | .null => true
  | .bool _ => true
  | .number _ => true
  | _ => false

/-! ## The reader -/

/-- Where a reader stands in a record. -/
inductive Reader.Place where
  | outside
  | beforeName
  | name
  | behindName
  | beforeValue
  | value
  | behindValue
  | behind
  deriving DecidableEq

/-- What a reader has read: parts of a name and of a value, and the members before them. -/
structure Reader where
  place : Reader.Place
  name : List Char
  value : List Char
  members : List (String × String)
  deriving DecidableEq

namespace Reader

/-- A character that may stand between names, values and what separates them. -/
def isGap (c : Char) : Bool :=
  [' ', '\n', '\r', '\t'].contains c

/-- A character of a name of a value (`null`, `true` or `false`) or of a number. -/
def isWord (c : Char) : Bool :=
  c.isAlphanum || ['+', '-', '.'].contains c

def goTo (reader : Reader) (place : Place) : Reader :=
  { reader with place := place }

def putName (reader : Reader) (c : Char) : Reader :=
  { reader with name := reader.name ++ [c] }

def putValue (reader : Reader) (c : Char) : Reader :=
  { reader with place := .value, value := reader.value ++ [c] }

/-- The value ends, and the member with it. -/
def endMember (reader : Reader) : Reader where
  place := .behindValue
  name := []
  value := []
  members := reader.members ++ [(String.ofList reader.name, String.ofList reader.value)]

/-- A character behind a value. -/
def afterValue (reader : Reader) (c : Char) : Option Reader :=
  if isGap c then some reader
  else if c = ',' then some (reader.goTo .beforeName)
  else if c = '\x7d' then some (reader.goTo .behind)
  else none

/-- One character. -/
def step (reader : Reader) (c : Char) : Option Reader :=
  match reader.place with
  | .outside =>
    if isGap c then some reader else if c = '\x7b' then some (reader.goTo .beforeName) else none
  | .beforeName =>
    if isGap c then some reader else if c = '"' then some (reader.goTo .name) else none
  | .name =>
    if c = '"' then some (reader.goTo .behindName)
    else if c = '\\' then none
    else some (reader.putName c)
  | .behindName =>
    if isGap c then some reader else if c = ':' then some (reader.goTo .beforeValue) else none
  | .beforeValue =>
    if isWord c then some (reader.putValue c) else if isGap c then some reader else none
  | .value =>
    if isWord c then some (reader.putValue c) else reader.endMember.afterValue c
  | .behindValue => reader.afterValue c
  | .behind => if isGap c then some reader else none

/-- The members of a record that has some, with the text of each value. -/
def read (text : String) : Option (List (String × String)) := do
  let last ← text.toList.foldlM step ⟨.outside, [], [], []⟩
  if last.place = .behind then some last.members else none

end Reader

/-! ## Names, values and layouts -/

/-- A name that is written without escapes. -/
def IsSimple (name : List Char) : Prop :=
  ∀ c ∈ name, escape c = [c]

/-- A layout that puts nothing but gaps around names and values. -/
structure Layout.IsSpacing (layout : Layout) : Prop where
  lineBreak : ∀ depth, ∀ c ∈ (layout.lineBreak depth).toList, Reader.isGap c = true
  colon : ∃ gap, layout.colon.toList = ':' :: gap ∧ ∀ c ∈ gap, Reader.isGap c = true

theorem isSpacing_indented : indented.IsSpacing where
  lineBreak := by
    intro depth c hc
    simp only [indented, String.toList_append, String.toList_ofList, List.mem_append] at hc
    cases hc with
    | inl hfeed =>
        have hfeed : c = '\n' := by simpa using hfeed
        rw [hfeed]
        rfl
    | inr hspaces =>
        rw [List.eq_of_mem_replicate hspaces]
        rfl
  colon := ⟨[' '], by simp [indented], by simp [Reader.isGap]⟩

theorem toList_writeText {name : String} (h : IsSimple name.toList) :
    (writeText name).toList = '"' :: name.toList ++ ['"'] := by
  have hescape : name.toList.flatMap escape = name.toList.flatMap fun c => [c] :=
    List.flatMap_congr h
  rw [writeText, String.toList_ofList, hescape, List.flatMap_singleton']

theorem write_eq_line {value : Json} (h : value.isBare = true) (layout : Layout) (depth : Nat) :
    value.write layout depth = value.line := by
  cases value with
  | null => simp [line, write]
  | bool value => simp [line, write]
  | number value => simp [line, write]
  | _ => cases h

theorem line_number (number : Number) : (Json.number number).line = number.write := by
  simp [line, write]

theorem Reader.isWord_of_isGap {c : Char} (h : isGap c = true) : isWord c = false := by
  simp only [isGap, List.contains_iff_mem, List.mem_cons, List.not_mem_nil, or_false] at h
  rcases h with rfl | rfl | rfl | rfl
  all_goals rfl

theorem isWord_of_isMark {c : Char} (h : Decimal.isMark c = true) : Reader.isWord c = true := by
  simp only [Decimal.isMark, Bool.or_eq_true, List.contains_iff_mem] at h
  cases h with
  | inl hdigit => simp [Reader.isWord, Char.isAlphanum, hdigit]
  | inr hmark =>
      simp only [List.mem_cons, List.not_mem_nil, or_false] at hmark
      rcases hmark with rfl | rfl | rfl | rfl
      all_goals rfl

/-- The text of a bare value is a word. -/
theorem isWord_of_mem_line {value : Json} (h : value.isBare = true) {c : Char}
    (hc : c ∈ value.line.toList) : Reader.isWord c = true := by
  cases value with
  | null =>
      revert c
      simp [line, write, Reader.isWord]
  | bool value =>
      revert c
      cases value with
      | false => simp [line, write, Reader.isWord]
      | true => simp [line, write, Reader.isWord]
  | number value =>
      rw [line_number] at hc
      exact isWord_of_isMark (value.isNumeral_write c hc)
  | _ => cases h

theorem line_ne_empty {value : Json} (h : value.isBare = true) : value.line ≠ "" := by
  cases value with
  | null => simp [line, write]
  | bool value => cases value <;> simp [line, write]
  | number value =>
      rw [line_number]
      exact value.write_ne_empty
  | _ => cases h

/-! ## Members -/

namespace Reader

variable {layout : Layout} {name value text : List Char} {members : List (String × String)}

theorem foldlM_append {front back : String} {reader next : Reader}
    (h : front.toList.foldlM step reader = some next) :
    (front ++ back).toList.foldlM step reader = back.toList.foldlM step next := by
  rw [String.toList_append]
  exact Loop.foldlM_append_of_eq_some h

theorem foldlM_name (h : IsSimple text) (name : List Char) :
    text.foldlM step ⟨.name, name, value, members⟩ =
      some ⟨.name, name ++ text, value, members⟩ := by
  apply Loop.foldlM_collect fun name => Reader.mk .name name value members
  intro c hc name
  have hescape := h c hc
  have hquote : c ≠ '"' := by
    intro heq
    simp [heq, escape] at hescape
  have hbackslash : c ≠ '\\' := by
    intro heq
    simp [heq, escape] at hescape
  simp [step, putName, hquote, hbackslash]

theorem foldlM_value (h : ∀ c ∈ text, isWord c = true) (value : List Char) :
    text.foldlM step ⟨.value, name, value, members⟩ =
      some ⟨.value, name, value ++ text, members⟩ := by
  apply Loop.foldlM_collect fun value => Reader.mk .value name value members
  intro c hc value
  simp [step, putValue, h c hc]

theorem foldlM_lineBreak (hlayout : layout.IsSpacing) (depth : Nat) {reader : Reader}
    (h : ∀ c, isGap c = true → step reader c = some reader) :
    (layout.lineBreak depth).toList.foldlM step reader = some reader := by
  apply Loop.foldlM_stay
  intro c hc
  exact h c (hlayout.lineBreak depth c hc)

/-- A name between its quotes. -/
theorem foldlM_writeText {name : String} (h : IsSimple name.toList) :
    (writeText name).toList.foldlM step ⟨.beforeName, [], [], members⟩ =
      some ⟨.behindName, name.toList, [], members⟩ := by
  have hopen : step ⟨.beforeName, [], [], members⟩ '"' = some ⟨.name, [], [], members⟩ := rfl
  rw [toList_writeText h, List.cons_append, List.foldlM_cons, hopen]
  show (name.toList ++ ['"']).foldlM step ⟨.name, [], [], members⟩ = _
  rw [Loop.foldlM_append_of_eq_some (foldlM_name h [])]
  rfl

theorem foldlM_colon (hlayout : layout.IsSpacing) :
    layout.colon.toList.foldlM step ⟨.behindName, name, [], members⟩ =
      some ⟨.beforeValue, name, [], members⟩ := by
  obtain ⟨gap, hcolon, hgap⟩ := hlayout.colon
  have hstep : step ⟨.behindName, name, [], members⟩ ':' =
      some ⟨.beforeValue, name, [], members⟩ := rfl
  rw [hcolon, List.foldlM_cons, hstep]
  apply Loop.foldlM_stay
  intro c hc
  have hblank := hgap c hc
  simp [step, hblank, isWord_of_isGap hblank]

/-- A bare value is read up to what follows it. -/
theorem foldlM_line {value : Json} (h : value.isBare = true) :
    value.line.toList.foldlM step ⟨.beforeValue, name, [], members⟩ =
      some ⟨.value, name, value.line.toList, members⟩ := by
  have hword : ∀ c ∈ value.line.toList, isWord c = true := fun c hc => isWord_of_mem_line h hc
  have hne : value.line.toList ≠ [] := by simpa using line_ne_empty h
  obtain ⟨c, rest, htext⟩ := List.exists_cons_of_ne_nil hne
  rw [htext] at hword ⊢
  obtain ⟨hc, hrest⟩ := List.forall_mem_cons.mp hword
  have hstep : step ⟨.beforeValue, name, [], members⟩ c = some ⟨.value, name, [c], members⟩ := by
    simp [step, putValue, hc]
  rw [List.foldlM_cons, hstep]
  exact foldlM_value hrest [c]

/-- A member is read up to what follows its value. -/
theorem foldlM_member (hlayout : layout.IsSpacing) {name : String} {value : Json}
    (hname : IsSimple name.toList) (hvalue : value.isBare = true) (depth : Nat)
    (members : List (String × String)) :
    (layout.lineBreak depth ++ writeText name ++ layout.colon ++
        value.write layout depth).toList.foldlM step ⟨.beforeName, [], [], members⟩ =
      some ⟨.value, name.toList, value.line.toList, members⟩ := by
  have hgap : ∀ c, isGap c = true →
      step ⟨.beforeName, [], [], members⟩ c = some ⟨.beforeName, [], [], members⟩ := by
    intro c hc
    simp [step, hc]
  rw [String.append_assoc, String.append_assoc,
    foldlM_append (foldlM_lineBreak hlayout depth hgap), foldlM_append (foldlM_writeText hname),
    foldlM_append (foldlM_colon hlayout), write_eq_line hvalue, foldlM_line hvalue]

/-- The end of the record behind a value. -/
theorem foldlM_close (hlayout : layout.IsSpacing) (depth : Nat) (name value : List Char) :
    (layout.lineBreak depth ++ "\x7d").toList.foldlM step ⟨.value, name, value, members⟩ =
      some ⟨.behind, [], [], members ++ [(String.ofList name, String.ofList value)]⟩ := by
  have hgaps := hlayout.lineBreak depth
  rw [String.toList_append, List.foldlM_append]
  cases hbreak : (layout.lineBreak depth).toList with
  | nil => rfl
  | cons c gap =>
      rw [hbreak] at hgaps
      obtain ⟨hc, hgap⟩ := List.forall_mem_cons.mp hgaps
      have hstep : step ⟨.value, name, value, members⟩ c =
          some (endMember ⟨.value, name, value, members⟩) := by
        simp [step, isWord_of_isGap hc, afterValue, hc]
      have hrest : gap.foldlM step (endMember ⟨.value, name, value, members⟩) =
          some (endMember ⟨.value, name, value, members⟩) := by
        apply Loop.foldlM_stay
        intro c hc
        simp [step, endMember, afterValue, hgap c hc]
      rw [List.foldlM_cons, hstep, Option.bind_eq_bind, Option.bind_some, hrest]
      rfl

/-- The members behind a value, and the end of the record. -/
theorem foldlM_writeMembers (hlayout : layout.IsSpacing) {fields : List (String × Json)}
    (hnames : ∀ field ∈ fields, IsSimple field.1.toList)
    (hvalues : ∀ field ∈ fields, field.2.isBare = true) (depth depth' : Nat) (name value : List Char)
    (members : List (String × String)) :
    (writeMembers layout depth fields ++ (layout.lineBreak depth' ++ "\x7d")).toList.foldlM step
        ⟨.value, name, value, members⟩ =
      some ⟨.behind, [], [], members ++ (String.ofList name, String.ofList value) ::
        fields.map fun field => (field.1, field.2.line)⟩ := by
  induction fields generalizing name value members with
  | nil =>
      rw [writeMembers, String.empty_append, foldlM_close hlayout]
      rfl
  | cons field fields ih =>
      obtain ⟨hname, hnames⟩ := List.forall_mem_cons.mp hnames
      obtain ⟨hvalue, hvalues⟩ := List.forall_mem_cons.mp hvalues
      have hcomma : ",".toList.foldlM step ⟨.value, name, value, members⟩ =
          some ⟨.beforeName, [], [], members ++ [(String.ofList name, String.ofList value)]⟩ := rfl
      have hmember := foldlM_member hlayout hname hvalue depth
        (members ++ [(String.ofList name, String.ofList value)])
      have hrest := ih hnames hvalues field.1.toList field.2.line.toList
        (members ++ [(String.ofList name, String.ofList value)])
      have hsplit : writeMembers layout depth (field :: fields) ++
          (layout.lineBreak depth' ++ "\x7d") =
          "," ++ ((layout.lineBreak depth ++ writeText field.1 ++ layout.colon ++
            field.2.write layout depth) ++
              (writeMembers layout depth fields ++ (layout.lineBreak depth' ++ "\x7d"))) := by
        rw [writeMembers]
        simp only [String.append_assoc]
      rw [hsplit, foldlM_append hcomma, foldlM_append hmember, hrest]
      simp

/-- A record of bare values, in a layout that puts only gaps between them, is read member by member. -/
theorem read_record (hlayout : layout.IsSpacing) {fields : List (String × Json)} (hne : fields ≠ [])
    (hnames : ∀ field ∈ fields, IsSimple field.1.toList)
    (hvalues : ∀ field ∈ fields, field.2.isBare = true) {gap : String}
    (hgap : ∀ c ∈ gap.toList, isGap c = true) :
    read ((Json.object fields).write layout 0 ++ gap) =
      some (fields.map fun field => (field.1, field.2.line)) := by
  obtain ⟨field, fields, rfl⟩ := List.exists_cons_of_ne_nil hne
  obtain ⟨hname, hnames⟩ := List.forall_mem_cons.mp hnames
  obtain ⟨hvalue, hvalues⟩ := List.forall_mem_cons.mp hvalues
  have hopen : "\x7b".toList.foldlM step ⟨.outside, [], [], []⟩ = some ⟨.beforeName, [], [], []⟩ := rfl
  have hmember := foldlM_member hlayout hname hvalue 1 []
  have hrest := foldlM_writeMembers hlayout hnames hvalues 1 0 field.1.toList field.2.line.toList []
  have hend : ∀ members, gap.toList.foldlM step ⟨.behind, [], [], members⟩ =
      some ⟨.behind, [], [], members⟩ := by
    intro members
    apply Loop.foldlM_stay
    intro c hc
    simp [step, hgap c hc]
  have hsplit : (Json.object (field :: fields)).write layout 0 ++ gap =
      "\x7b" ++ ((layout.lineBreak 1 ++ writeText field.1 ++ layout.colon ++
        field.2.write layout 1) ++
          ((writeMembers layout 1 fields ++ (layout.lineBreak 0 ++ "\x7d")) ++ gap)) := by
    rw [write]
    simp only [String.append_assoc]
  rw [read, hsplit, foldlM_append hopen, foldlM_append hmember, foldlM_append hrest, hend]
  simp

example : read "\x7b \"runs\" : 12,\n\"rate\":null\x7d" = some [("runs", "12"), ("rate", "null")] := by
  decide +kernel

end Reader

end BenchLog.Json
