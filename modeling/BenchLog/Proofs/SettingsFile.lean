import BenchLog.Proofs.Loop
import BenchLog.Settings.Document

/-!
# What a settings file gives

Each setting has its place in a document (`Settings.Places`). The layer of a document holds for each setting
what is read from its place, and nothing if nothing stands there (`Settings.ofMembers?_eq_some_iff`). There is
a layer if and only if everything that stands in the place of a setting can be read
(`Settings.exists_ofMembers?_iff`): a key that is missing never keeps the others from being read.
-/

namespace BenchLog.Settings

/-! ## Places -/

/-- What a group has under one of its keys. In an array the items stand for the keys in order. -/
def under? (keys : List String) (key : String) : Toml.Value → Option Toml.Value
  | .table members => members.lookup key
  | .array items => items[keys.idxOf key]?
  | _ => none

/-- Whether a value is a group. An array is one if it has so many items at least. -/
def isGroup (least : Nat) : Toml.Value → Bool
  | .table _ | .moment _ => true
  | .array items => decide (least ≤ items.length)
  | _ => false

/-- The keys of the tracked kinds. -/
def trackedKeys : List String := ["follow", "tweet"]

/-- The keys of the output. -/
def outputKeys : List String := ["format", "path"]

/-- What a document has in the place of each setting. -/
structure Places where
  logs : Option Toml.Value
  duration : Option Toml.Value
  warmup : Option Toml.Value
  window : Option Toml.Value
  workers : Option Toml.Value
  inputKind : Option Toml.Value
  follow : Option Toml.Value
  tweet : Option Toml.Value
  format : Option Toml.Value
  output : Option Toml.Value

/-- The places of the settings among the members of a document. -/
def Places.ofMembers (members : Members) : Places where
  logs := members.lookup "logs"
  duration := members.lookup "duration_sec"
  warmup := members.lookup "warmup_sec"
  window := members.lookup "window"
  workers := members.lookup "workers"
  inputKind := members.lookup "input_kind"
  follow := (members.lookup "tracked_types").bind (under? trackedKeys "follow")
  tweet := (members.lookup "tracked_types").bind (under? trackedKeys "tweet")
  format := (members.lookup "output").bind (under? outputKeys "format")
  output := (members.lookup "output").bind (under? outputKeys "path")

variable {ω α β : Type}

/-- What is given, if anything is, can be read. -/
def Readable (given? : Option ω) (read : ω → Option α) : Prop :=
  ∀ given, given? = some given → ∃ result, read given = some result

/-- Where a group of settings should stand, one stands if anything does. -/
structure Grouped (members : Members) : Prop where
  tracked : ∀ value, members.lookup "tracked_types" = some value → isGroup 0 value = true
  outputs : ∀ value, members.lookup "output" = some value → isGroup 2 value = true

/-- Everything that stands in the place of a setting, or of a group of them, can be read. -/
structure Legible (members : Members) : Prop extends Grouped members where
  logs : Readable (Places.ofMembers members).logs paths?
  duration : Readable (Places.ofMembers members).duration Toml.Value.float?
  warmup : Readable (Places.ofMembers members).warmup Toml.Value.float?
  window : Readable (Places.ofMembers members).window Toml.Value.bool?
  workers : Readable (Places.ofMembers members).workers workers?
  inputKind : Readable (Places.ofMembers members).inputKind (choice? InputKind.ofName?)
  follow : Readable (Places.ofMembers members).follow Toml.Value.integer?
  tweet : Readable (Places.ofMembers members).tweet Toml.Value.integer?
  format : Readable (Places.ofMembers members).format (choice? Format.ofName?)
  output : Readable (Places.ofMembers members).output Toml.Value.text?

/-- A layer holds what is read from each place, and nothing where nothing stands. -/
structure Taken (places : Places) (layer : Layer) : Prop where
  logs : places.logs.mapM paths? = some layer.logs
  duration : places.duration.mapM Toml.Value.float? = some layer.duration
  warmup : places.warmup.mapM Toml.Value.float? = some layer.warmup
  window : places.window.mapM Toml.Value.bool? = some layer.window
  workers : places.workers.mapM workers? = some layer.workers
  inputKind : places.inputKind.mapM (choice? InputKind.ofName?) = some layer.inputKind
  follow : places.follow.mapM Toml.Value.integer? = some layer.follow
  tweet : places.tweet.mapM Toml.Value.integer? = some layer.tweet
  format : places.format.mapM (choice? Format.ofName?) = some layer.format
  output : places.output.mapM Toml.Value.text? = some layer.output

theorem readable_iff {given? : Option ω} {read : ω → Option α} :
    Readable given? read ↔ ∃ result?, given?.mapM read = some result? := by
  cases given? with
  | none => simp [Readable]
  | some given =>
      constructor
      · intro h
        obtain ⟨result, hresult⟩ := h given rfl
        exact ⟨some result, by simp [hresult]⟩
      · rintro ⟨result?, hresult⟩ _ ⟨⟩
        obtain ⟨result, hread, -⟩ := Option.map_eq_some_iff.mp hresult
        exact ⟨result, hread⟩

theorem not_readable_iff {given? : Option ω} {read : ω → Option α} :
    ¬Readable given? read ↔ ∃ given, given? = some given ∧ read given = none := by
  simp [Readable, Option.eq_none_iff_forall_ne_some]

/-! ## Reading a place -/

theorem setting?_eq (members : Members) (key : String) (read : Toml.Value → Option α) :
    setting? members key read = (members.lookup key).mapM read := by
  rw [setting?]
  cases members.lookup key <;> rfl

/-- What is read from the places of two settings. -/
def both? (first? second? : Option Toml.Value) (readFirst : Toml.Value → Option α)
    (readSecond : Toml.Value → Option β) : Option (Option α × Option β) := do
  return (← first?.mapM readFirst, ← second?.mapM readSecond)

theorem both?_eq_some_iff {first? second? : Option Toml.Value} {readFirst : Toml.Value → Option α}
    {readSecond : Toml.Value → Option β} {a : Option α} {b : Option β} :
    both? first? second? readFirst readSecond = some (a, b) ↔
      first?.mapM readFirst = some a ∧ second?.mapM readSecond = some b := by
  simp [both?, Option.bind_eq_some_iff]

/-- A group that is not there gives neither setting. One that is there gives what is read from its two
    places. -/
theorem mapM_group_eq_some_iff {read : Toml.Value → Option (Option α × Option β)}
    {isGroup : Toml.Value → Bool} {first second : Toml.Value → Option Toml.Value}
    {readFirst : Toml.Value → Option α} {readSecond : Toml.Value → Option β}
    (hread : ∀ value, read value =
      if isGroup value then both? (first value) (second value) readFirst readSecond else none)
    (value? : Option Toml.Value) (a : Option α) (b : Option β) :
    (∃ pair?, value?.mapM read = some pair? ∧ pair?.bind Prod.fst = a ∧ pair?.bind Prod.snd = b) ↔
      (∀ value, value? = some value → isGroup value = true) ∧
        (value?.bind first).mapM readFirst = some a ∧
        (value?.bind second).mapM readSecond = some b := by
  cases value? with
  | none => simp
  | some value =>
      have hmap : (some value).mapM read = (read value).map some := rfl
      rw [hmap, hread]
      cases hgroup : isGroup value with
      | false => simp [hgroup]
      | true =>
          simp only [if_true, Option.bind_some, ← both?_eq_some_iff]
          constructor
          · rintro ⟨pair?, hpair, rfl, rfl⟩
            obtain ⟨pair, hboth, rfl⟩ := Option.map_eq_some_iff.mp hpair
            refine ⟨?_, hboth⟩
            rintro _ ⟨⟩
            exact hgroup
          · rintro ⟨-, hboth⟩
            exact ⟨some (a, b), by rw [hboth]; rfl, rfl, rfl⟩

theorem tracked?_eq (value : Toml.Value) :
    (group? value).bind tracked? =
      if isGroup 0 value then
        both? (under? trackedKeys "follow" value) (under? trackedKeys "tweet" value)
          Toml.Value.integer? Toml.Value.integer?
      else none := by
  cases value with
  | table members =>
      simp only [group?, Option.bind_some, tracked?, isGroup, if_true, both?, under?, setting?_eq]
  | array items =>
      match items with
      | [] => rfl
      | [follow] =>
          show tracked? (.listed [follow]) = both? (some follow) none _ _
          cases hfollow : follow.integer? <;> simp [tracked?, both?, hfollow]
      | follow :: tweet :: rest =>
          show tracked? (.listed (follow :: tweet :: rest)) = both? (some follow) (some tweet) _ _
          cases hfollow : follow.integer? <;> cases htweet : tweet.integer? <;>
            simp [tracked?, both?, hfollow, htweet]
  | _ => rfl

theorem output?_eq (value : Toml.Value) :
    (group? value).bind output? =
      if isGroup 2 value then
        both? (under? outputKeys "format" value) (under? outputKeys "path" value)
          (choice? Format.ofName?) Toml.Value.text?
      else none := by
  cases value with
  | table members =>
      simp only [group?, Option.bind_some, output?, isGroup, if_true, both?, under?, setting?_eq]
  | array items =>
      match items with
      | [] | [_] => rfl
      | format :: path :: rest =>
          show output? (.listed (format :: path :: rest)) = both? (some format) (some path) _ _
          cases hformat : choice? Format.ofName? format <;> cases hpath : path.text? <;>
            simp [output?, both?, hformat, hpath]
  | _ => rfl

/-- A document gives a layer if its groups are groups, and then the layer holds what is read from each
    place. -/
theorem ofMembers?_eq_some_iff (members : Members) (layer : Layer) :
    Layer.ofMembers? members = some layer ↔
      Grouped members ∧ Taken (Places.ofMembers members) layer := by
  have htracked := mapM_group_eq_some_iff tracked?_eq (members.lookup "tracked_types") layer.follow
    layer.tweet
  have houtput := mapM_group_eq_some_iff output?_eq (members.lookup "output") layer.format
    layer.output
  simp only [Layer.ofMembers?, setting?_eq, Option.bind_eq_bind, Option.bind_eq_some_iff,
    Option.pure_def, Option.some.injEq]
  constructor
  · rintro ⟨tracked, hpair, output, hpair', logs, hlogs, duration, hduration, warmup, hwarmup,
      window, hwindow, workers, hworkers, inputKind, hinputKind, rfl⟩
    obtain ⟨isTracked, hfollow, htweet⟩ := htracked.mp ⟨tracked, hpair, rfl, rfl⟩
    obtain ⟨isOutput, hformat, hpath⟩ := houtput.mp ⟨output, hpair', rfl, rfl⟩
    exact ⟨⟨isTracked, isOutput⟩, hlogs, hduration, hwarmup, hwindow, hworkers, hinputKind, hfollow,
      htweet, hformat, hpath⟩
  · rintro ⟨groups, taken⟩
    obtain ⟨tracked, hpair, hfollow, htweet⟩ := htracked.mpr ⟨groups.tracked, taken.follow, taken.tweet⟩
    obtain ⟨output, hpair', hformat, hpath⟩ := houtput.mpr ⟨groups.outputs, taken.format, taken.output⟩
    refine ⟨tracked, hpair, output, hpair', _, taken.logs, _, taken.duration, _, taken.warmup, _,
      taken.window, _, taken.workers, _, taken.inputKind, ?_⟩
    rw [hfollow, htweet, hformat, hpath]

/-- There is a layer if and only if everything in the document that is meant for it can be read. -/
theorem exists_ofMembers?_iff (members : Members) :
    (∃ layer, Layer.ofMembers? members = some layer) ↔ Legible members := by
  simp only [ofMembers?_eq_some_iff]
  constructor
  · rintro ⟨layer, groups, taken⟩
    exact ⟨groups, readable_iff.mpr ⟨_, taken.logs⟩, readable_iff.mpr ⟨_, taken.duration⟩,
      readable_iff.mpr ⟨_, taken.warmup⟩, readable_iff.mpr ⟨_, taken.window⟩,
      readable_iff.mpr ⟨_, taken.workers⟩, readable_iff.mpr ⟨_, taken.inputKind⟩,
      readable_iff.mpr ⟨_, taken.follow⟩, readable_iff.mpr ⟨_, taken.tweet⟩,
      readable_iff.mpr ⟨_, taken.format⟩, readable_iff.mpr ⟨_, taken.output⟩⟩
  · intro legible
    obtain ⟨logs, hlogs⟩ := readable_iff.mp legible.logs
    obtain ⟨duration, hduration⟩ := readable_iff.mp legible.duration
    obtain ⟨warmup, hwarmup⟩ := readable_iff.mp legible.warmup
    obtain ⟨window, hwindow⟩ := readable_iff.mp legible.window
    obtain ⟨workers, hworkers⟩ := readable_iff.mp legible.workers
    obtain ⟨inputKind, hinputKind⟩ := readable_iff.mp legible.inputKind
    obtain ⟨follow, hfollow⟩ := readable_iff.mp legible.follow
    obtain ⟨tweet, htweet⟩ := readable_iff.mp legible.tweet
    obtain ⟨format, hformat⟩ := readable_iff.mp legible.format
    obtain ⟨output, houtput⟩ := readable_iff.mp legible.output
    exact ⟨⟨logs, duration, warmup, window, workers, inputKind, follow, tweet, format, output⟩,
      legible.toGrouped, hlogs, hduration, hwarmup, hwindow, hworkers, hinputKind, hfollow, htweet,
      hformat, houtput⟩

theorem Layer.ofDocument_eq_ok_iff {text : List Char} {layer : Layer} :
    Layer.ofDocument text = .ok layer ↔
      ∃ members, Toml.read? text = some members ∧ Layer.ofMembers? members = some layer := by
  rw [Layer.ofDocument]
  cases Toml.read? text with
  | none => simp
  | some members => cases hlayer : Layer.ofMembers? members <;> simp [hlayer]

theorem ofDocument_eq_ok_iff {text : List Char} {settings : Settings} :
    ofDocument text = .ok settings ↔
      ∃ members layer, Toml.read? text = some members ∧ Layer.ofMembers? members = some layer ∧
        settings = layer.onto {} := by
  simp only [ofDocument, Loop.bind_eq_ok_iff, Layer.ofDocument_eq_ok_iff]
  constructor
  · rintro ⟨layer, ⟨members, hread, hlayer⟩, ⟨⟩⟩
    exact ⟨members, layer, hread, hlayer, rfl⟩
  · rintro ⟨members, layer, hread, hlayer, rfl⟩
    exact ⟨layer, ⟨members, hread, hlayer⟩, rfl⟩

end BenchLog.Settings
