import BenchLog.FileTree

/-!
# What writing a file changes

A write that succeeds puts its contents where the path leads, and the path leads there afterwards
(`FileTree.onlyChanged_of_write`). Nothing else in the tree is made or changed, whichever way the path
takes, through whichever links, and whether the file was there before.
-/

namespace BenchLog

/-! ## Putting a file into directories -/

namespace Node

variable {entries : List (String × Node)} {directory rest : List String} {name : String}

theorem lookup_setEntry (name : String) (node : Node) (entries : List (String × Node))
    (other : String) :
    (setEntry name node entries).lookup other =
      if other = name then some node else entries.lookup other := by
  have hcons (node : Node) (first : String) (entries : List (String × Node)) :
      ((first, node) :: entries).lookup other =
        if other = first then some node else entries.lookup other := by
    rw [List.lookup_cons]
    by_cases h : other = first
    · simp [h]
    · rw [beq_eq_false_iff_ne.mpr h, if_neg h]
  induction entries with
  | nil => exact hcons node name []
  | cons entry entries ih =>
      obtain ⟨first, old⟩ := entry
      unfold setEntry
      by_cases hfirst : first = name
      · subst hfirst
        rw [if_pos rfl, hcons, hcons]
        split <;> rfl
      · rw [if_neg hfirst, hcons, hcons, ih]
        by_cases h : other = first
        · subst h
          rw [if_pos rfl, if_pos rfl, if_neg hfirst]
        · rw [if_neg h, if_neg h]

/-- The way to a directory is through directories. -/
theorem lookup_of_item? (h : item? entries (name :: rest) = some .directory) :
    ∃ below, entries.lookup name = some (.directory below) ∧ item? below rest = some .directory := by
  rw [item?] at h
  split at h
  · rename_i below hlookup
    exact ⟨below, hlookup, h⟩
  · rename_i node hnode _
    split at h
    · cases node with
      | directory below => exact absurd rfl (hnode below)
      | file contents => cases h
      | link target => cases h
    · cases h
  · cases h

theorem item?_dropLast (h : item? entries directory = some .directory) :
    item? entries directory.dropLast = some .directory := by
  induction directory generalizing entries with
  | nil => exact h
  | cons name rest ih =>
      obtain ⟨below, hlookup, hrest⟩ := lookup_of_item? h
      cases rest with
      | nil => rfl
      | cons second rest =>
          rw [List.dropLast_cons_cons, item?, hlookup]
          exact ih hrest

/-- Nothing stands below what is no directory. -/
theorem item?_below (h : item? entries [name] ≠ some .directory) (hrest : rest ≠ []) :
    item? entries (name :: rest) = none := by
  rw [item?]
  split
  · rename_i below hlookup
    rw [item?, hlookup] at h
    exact absurd rfl h
  · simp [hrest]
  · rfl

theorem item?_setEntry_file (contents : List UInt8) (h : item? entries [name] ≠ some .directory)
    (other : List String) :
    item? (setEntry name (.file contents) entries) other =
      if other = [name] then some (.file contents) else item? entries other := by
  cases other with
  | nil => rfl
  | cons first rest =>
      by_cases hfirst : first = name
      · subst hfirst
        rw [item?, lookup_setEntry, if_pos rfl]
        by_cases hrest : rest = []
        · subst hrest
          simp [item]
        · simp [hrest, item?_below h hrest]
      · rw [item?, lookup_setEntry, if_neg hfirst, if_neg (by simp [hfirst]), item?]

/-- A file that is put into a directory is found there, and whatever stands elsewhere is as it was. -/
theorem item?_putFile (contents : List UInt8) (hdirectory : item? entries directory = some .directory)
    (hfree : item? entries (directory ++ [name]) ≠ some .directory) (other : List String) :
    item? (putFile contents entries (directory ++ [name])) other =
      if other = directory ++ [name] then some (.file contents) else item? entries other := by
  induction directory generalizing entries other with
  | nil => exact item?_setEntry_file contents hfree other
  | cons above directory ih =>
      obtain ⟨below, hlookup, hbelow⟩ := lookup_of_item? hdirectory
      have hput : putFile contents entries (above :: (directory ++ [name])) =
          setEntry above (.directory (putFile contents below (directory ++ [name]))) entries := by
        rw [putFile, hlookup]
        simp
      rw [List.cons_append, item?, hlookup] at hfree
      rw [List.cons_append, hput]
      cases other with
      | nil => rfl
      | cons first rest =>
          rw [item?, lookup_setEntry]
          by_cases hfirst : first = above
          · subst hfirst
            simp only [if_true, List.cons.injEq, true_and]
            rw [ih hbelow hfree, item?, hlookup]
          · rw [if_neg hfirst, if_neg (by simp [hfirst]), item?]

end Node

namespace FileTree

/-- The names of the file that is or would be at a place. -/
def Place.names? : Place → Option (List String)
  | .file names _ => some names
  | .vacant names => some names
  | .directory => none

/-- The place once these are the contents of the file at it. -/
def Place.holding (contents : List UInt8) : Place → Place
  | .file names _ => .file names contents
  | .vacant names => .file names contents
  | .directory => .directory

theorem Place.holding_of_names {place : Place} {names : List String} (contents : List UInt8)
    (h : place.names? = some names) : place.holding contents = .file names contents := by
  cases place with
  | file | vacant =>
      cases h
      rfl
  | directory => cases h

/-- The names of the file that is or would be where a walk ends. -/
def Stop.names? : Stop → Option (List String)
  | .arrived place => place.names?
  | .link .. => none

/-- The end of a walk once these are the contents of the file there. -/
def Stop.holding (contents : List UInt8) : Stop → Stop
  | .arrived place => .arrived (place.holding contents)
  | .link directory target rest => .link directory target rest

/-- After this the path leads to a file with these contents, and whatever stands elsewhere is as it was. -/
def OnlyChanged (before after : FileTree) (path : String) (contents : List UInt8) : Prop :=
  ∃ names, after.locate .read path = .ok (.file names contents) ∧
    ∀ other, other ≠ names → after.item? other = before.item? other

/-- There is a directory for a file with these names, and neither a directory nor a link stands there. -/
structure Open (tree : FileTree) (names : List String) : Prop where
  placed : ∃ directory name, names = directory ++ [name] ∧ tree.item? directory = some .directory
  notDirectory : tree.item? names ≠ some .directory
  notLink : ∀ target, tree.item? names ≠ some (.link target)

/-- A file takes the place of what stood under its names, and of nothing else. -/
structure Replaced (tree after : FileTree) (target : List String) (contents : List UInt8) : Prop where
  free : tree.Open target
  here : after.here = tree.here
  items : ∀ other,
    after.item? other = if other = target then some (.file contents) else tree.item? other

variable {tree after : FileTree} {access : Access} {target names directory rest : List String}
  {contents : List UInt8} {place : Place} {stop : Stop} {links : Nat} {name path : String}

theorem replaced_of_put (h : tree.put target contents = .ok after) (free : tree.Open target) :
    tree.Replaced after target contents := by
  unfold put at h
  split at h
  · cases h
  · cases h
    obtain ⟨directory, name, rfl, hdirectory⟩ := free.placed
    exact ⟨free, rfl, Node.item?_putFile contents hdirectory free.notDirectory⟩

/-- Directories and links stay what they are. -/
theorem Replaced.item?_eq (h : tree.Replaced after target contents) {item : Item}
    (hitem : tree.item? names = some item) (hfile : ∀ old, item ≠ .file old) :
    after.item? names = some item := by
  rw [h.items, if_neg, hitem]
  intro hnames
  subst hnames
  cases item with
  | file old => exact hfile old rfl
  | link linked => exact h.free.notLink linked hitem
  | directory => exact h.free.notDirectory hitem

/-! ## One step -/

/-- What a step to a name can come to. -/
theorem enter_eq_ok {step : Option Stop} (h : tree.enter access directory name rest = .ok step) :
    (step = none ∧ tree.item? (directory ++ [name]) = some .directory) ∨
    (∃ linked, step = some (.link directory linked rest) ∧
      tree.item? (directory ++ [name]) = some (.link linked)) ∨
    ∃ place, step = some (.arrived place) ∧ place.names? = some (directory ++ [name]) ∧
      ((∃ old, tree.item? (directory ++ [name]) = some (.file old)) ∨
        tree.item? (directory ++ [name]) = none) := by
  unfold enter at h
  split at h
  · cases h
  split at h
  · cases h
  simp only at h
  split at h
  · rename_i hitem
    cases h
    exact Or.inl ⟨rfl, hitem⟩
  · rename_i linked hitem
    cases h
    exact Or.inr (Or.inl ⟨linked, rfl, hitem⟩)
  · rename_i old hitem
    split at h <;> cases h
    exact Or.inr (Or.inr ⟨_, rfl, rfl, Or.inl ⟨old, hitem⟩⟩)
  · rename_i hitem
    split at h <;> cases h
    exact Or.inr (Or.inr ⟨_, rfl, rfl, Or.inr hitem⟩)

theorem item?_of_enter (h : tree.enter access directory name rest = .ok none) :
    tree.item? (directory ++ [name]) = some .directory := by
  obtain ⟨-, hitem⟩ | ⟨linked, hstep, -⟩ | ⟨place, hstep, -⟩ := enter_eq_ok h
  · exact hitem
  · cases hstep
  · cases hstep

/-- A step to a file that is or would be there is a step into its directory. -/
theorem open_of_enter (hdirectory : tree.item? directory = some .directory)
    (h : tree.enter access directory name rest = .ok (some stop)) (hstop : stop.names? = some target) :
    tree.Open target := by
  obtain ⟨hstep, -⟩ | ⟨linked, hstep, -⟩ | ⟨place, hstep, hplace, hitem⟩ := enter_eq_ok h
  · cases hstep
  · cases hstep
    cases hstop
  · cases hstep
    obtain rfl : directory ++ [name] = target := Option.some.inj (hplace.symm.trans hstop)
    refine ⟨⟨directory, name, rfl, hdirectory⟩, ?_, ?_⟩
    all_goals obtain ⟨old, hitem⟩ | hitem := hitem <;> simp [hitem]

/-- A link is met in the directory of the step. -/
theorem enter_link {start behind : List String} {linked : String}
    (h : tree.enter access directory name rest = .ok (some (.link start linked behind))) :
    start = directory := by
  obtain ⟨hstep, -⟩ | ⟨linked, hstep, -⟩ | ⟨place, hstep, -⟩ := enter_eq_ok h
  · cases hstep
  · cases hstep
    rfl
  · cases hstep

/-- Only a slash tells the way to a file that is written from the way to one that is read. -/
theorem enter_read_of_write {step : Option Stop}
    (h : tree.enter .write directory name rest = .ok step) :
    tree.enter .read directory name rest = .ok step := by
  unfold enter at h ⊢
  split at h
  · cases h
  · rw [if_neg (by simp)]
    exact h

/-- A step stays what it is, but that the file it ends at holds what was put there. -/
theorem enter_replaced (hreplaced : tree.Replaced after target contents) {step : Option Stop}
    (h : tree.enter access directory name rest = .ok step)
    (hstep : ∀ stop names, step = some stop → stop.names? = some names → names = target) :
    after.enter access directory name rest = .ok (step.map (Stop.holding contents)) := by
  unfold enter at h ⊢
  split at h
  · cases h
  rename_i hslashed
  split at h
  · cases h
  rename_i hlimit
  rw [if_neg hslashed, if_neg hlimit]
  simp only at h ⊢
  split at h
  · rename_i hitem
    cases h
    rw [hreplaced.item?_eq hitem (by simp)]
    rfl
  · rename_i linked hitem
    cases h
    simp only [hreplaced.item?_eq hitem (by simp)]
    rfl
  all_goals
    split at h <;> cases h
    rename_i hrest
    have hnames : directory ++ [name] = target := hstep _ _ rfl rfl
    simp only [hreplaced.items, if_pos hnames, if_pos hrest]
    rfl

/-! ## The way to the file -/

/-- The way goes through directories. -/
theorem open_of_walk (hdirectory : tree.item? directory = some .directory)
    (h : tree.walk access directory names = .ok stop) (hstop : stop.names? = some target) :
    tree.Open target := by
  fun_induction walk tree access directory names with
  | case1 =>
      cases h
      cases hstop
  | case2 directory name rest hstay ih => exact ih hdirectory h
  | case3 directory rest hstay ih => exact ih (Node.item?_dropLast hdirectory) h
  | case4 => cases h
  | case5 directory name rest hstay hup found henter =>
      cases h
      exact open_of_enter hdirectory henter hstop
  | case6 directory name rest hstay hup henter ih => exact ih (item?_of_enter henter) h

theorem item?_of_walk_link {start behind : List String} {linked : String}
    (hdirectory : tree.item? directory = some .directory)
    (h : tree.walk access directory names = .ok (.link start linked behind)) :
    tree.item? start = some .directory := by
  fun_induction walk tree access directory names with
  | case1 => cases h
  | case2 directory name rest hstay ih => exact ih hdirectory h
  | case3 directory rest hstay ih => exact ih (Node.item?_dropLast hdirectory) h
  | case4 => cases h
  | case5 directory name rest hstay hup found henter =>
      cases h
      rwa [enter_link henter]
  | case6 directory name rest hstay hup henter ih => exact ih (item?_of_enter henter) h

theorem walk_read_of_write (h : tree.walk .write directory names = .ok stop) :
    tree.walk .read directory names = .ok stop := by
  fun_induction walk tree .write directory names with
  | case1 => exact h
  | case2 directory name rest hstay ih =>
      rw [walk, if_pos hstay]
      exact ih h
  | case3 directory rest hstay ih =>
      rw [walk, if_neg hstay, if_pos rfl]
      exact ih h
  | case4 => cases h
  | case5 directory name rest hstay hup found henter =>
      rw [walk, if_neg hstay, if_neg hup, enter_read_of_write henter]
      exact h
  | case6 directory name rest hstay hup henter ih =>
      rw [walk, if_neg hstay, if_neg hup, enter_read_of_write henter]
      exact ih h

theorem walk_replaced (hreplaced : tree.Replaced after target contents)
    (h : tree.walk access directory names = .ok stop)
    (hstop : ∀ names, stop.names? = some names → names = target) :
    after.walk access directory names = .ok (stop.holding contents) := by
  fun_induction walk tree access directory names with
  | case1 =>
      cases h
      rfl
  | case2 directory name rest hstay ih =>
      rw [walk, if_pos hstay]
      exact ih h
  | case3 directory rest hstay ih =>
      rw [walk, if_neg hstay, if_pos rfl]
      exact ih h
  | case4 => cases h
  | case5 directory name rest hstay hup found henter =>
      cases h
      rw [walk, if_neg hstay, if_neg hup, enter_replaced hreplaced henter]
      · rfl
      · intro reached names hreached hnames
        cases hreached
        exact hstop names hnames
  | case6 directory name rest hstay hup henter ih =>
      rw [walk, if_neg hstay, if_neg hup, enter_replaced hreplaced henter]
      · exact ih h
      · intro reached names hreached
        cases hreached

/-! ## Links on the way -/

theorem item?_start (hdirectory : tree.item? directory = some .directory) (path : String) :
    tree.item? (start directory path) = some .directory := by
  unfold start
  split
  · rfl
  · exact hdirectory

theorem open_of_follow (hdirectory : tree.item? directory = some .directory)
    (h : tree.follow access links directory names = .ok place) (hplace : place.names? = some target) :
    tree.Open target := by
  fun_induction follow tree access links directory names with
  | case1 => cases h
  | case2 links directory names found hwalk =>
      cases h
      exact open_of_walk hdirectory hwalk hplace
  | case3 => cases h
  | case4 => cases h
  | case5 directory names above linked rest hwalk links hfault ih =>
      exact ih (item?_start (item?_of_walk_link hdirectory hwalk) linked) h

theorem follow_read_of_write (h : tree.follow .write links directory names = .ok place) :
    tree.follow .read links directory names = .ok place := by
  fun_induction follow tree .write links directory names with
  | case1 => cases h
  | case2 links directory names found hwalk =>
      rw [follow, walk_read_of_write hwalk]
      exact h
  | case3 => cases h
  | case4 => cases h
  | case5 directory names above linked rest hwalk links hfault ih =>
      rw [follow, walk_read_of_write hwalk]
      simp only [hfault]
      exact ih h

theorem follow_replaced (hreplaced : tree.Replaced after target contents)
    (h : tree.follow access links directory names = .ok place) (hplace : place.names? = some target) :
    after.follow access links directory names = .ok (.file target contents) := by
  fun_induction follow tree access links directory names with
  | case1 => cases h
  | case2 links directory names found hwalk =>
      cases h
      have hwalk := walk_replaced hreplaced hwalk fun names hnames =>
        Option.some.inj (hnames.symm.trans hplace)
      rw [follow, hwalk, Stop.holding, Place.holding_of_names contents hplace]
  | case3 => cases h
  | case4 => cases h
  | case5 directory names above linked rest hwalk links hfault ih =>
      have hwalk := walk_replaced hreplaced hwalk (by simp [Stop.names?])
      rw [follow, hwalk]
      simp only [Stop.holding, hfault]
      exact ih h

/-! ## Writing -/

theorem locate_eq_ok (h : tree.locate access path = .ok place) :
    fault? path = none ∧ tree.item? (start tree.here path) = some .directory ∧
      tree.follow access linkLimit (start tree.here path) (namesOf path) = .ok place := by
  unfold locate at h
  split at h
  · cases h
  · simp only at h
    split at h
    · exact ⟨‹_›, ‹_›, h⟩
    · cases h

theorem write_eq_ok (h : tree.write path contents = .ok after) :
    ∃ place target, tree.locate .write path = .ok place ∧ place.names? = some target ∧
      tree.put target contents = .ok after := by
  unfold write at h
  split at h
  · rename_i names old hlocate
    exact ⟨_, names, hlocate, rfl, h⟩
  · rename_i names hlocate
    exact ⟨_, names, hlocate, rfl, h⟩
  · cases h
  · cases h

/-- A write that succeeds puts the contents where the path leads, and changes nothing else. -/
theorem onlyChanged_of_write (h : tree.write path contents = .ok after) :
    tree.OnlyChanged after path contents := by
  obtain ⟨place, target, hlocate, hplace, hput⟩ := write_eq_ok h
  obtain ⟨hfault, hstart, hfollow⟩ := locate_eq_ok hlocate
  have hreplaced := replaced_of_put hput (open_of_follow hstart hfollow hplace)
  refine ⟨target, ?_, ?_⟩
  · have hstart : after.item? (start after.here path) = some .directory := by
      rw [hreplaced.here]
      exact hreplaced.item?_eq hstart (by simp)
    rw [locate, hfault]
    simp only [if_pos hstart]
    rw [hreplaced.here]
    exact follow_replaced hreplaced (follow_read_of_write hfollow) hplace
  · intro other hother
    rw [hreplaced.items, if_neg hother]

end FileTree

end BenchLog
