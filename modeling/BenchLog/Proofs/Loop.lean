import Mathlib.Data.List.Forall2

/-!
# Loops that may fail

A loop over a list ends at the first element that fails, and what came before that element succeeded.
Reading all elements and folding afterwards fails where reading and folding in one pass fails. A reader that takes one
character at a time is such a loop too: it stays where it is, or it collects what it reads.
-/

namespace BenchLog.Loop

variable {α β σ ε : Type}

@[simp] theorem ok_bind (a : α) (next : α → Except ε β) : (Except.ok a >>= next) = next a := rfl

@[simp] theorem error_bind (e : ε) (next : α → Except ε β) :
    (Except.error e >>= next) = .error e := rfl

@[simp] theorem pure_eq_ok (a : α) : (pure a : Except ε α) = .ok a := rfl

theorem bind_eq_ok_iff {first : Except ε α} {next : α → Except ε β} {b : β} :
    (first >>= next) = .ok b ↔ ∃ a, first = .ok a ∧ next a = .ok b := by
  cases first <;> simp

theorem bind_eq_error_iff {first : Except ε α} {next : α → Except ε β} {e : ε} :
    (first >>= next) = .error e ↔ first = .error e ∨ ∃ a, first = .ok a ∧ next a = .error e := by
  cases first <;> simp

theorem isOk_iff {result : Except ε α} : result.isOk = true ↔ ∃ a, result = .ok a := by
  cases result <;> simp [Except.isOk, Except.toBool]

theorem mapError_eq_ok_iff {ε' : Type} {result : Except ε α} {f : ε → ε'} {a : α} :
    result.mapError f = .ok a ↔ result = .ok a := by
  cases result <;> simp [Except.mapError]

theorem mapError_eq_error_iff {ε' : Type} {result : Except ε α} {f : ε → ε'} {e' : ε'} :
    result.mapError f = .error e' ↔ ∃ e, result = .error e ∧ f e = e' := by
  cases result <;> simp [Except.mapError]

theorem toOption_eq_some_iff {result : Except ε α} {a : α} :
    result.toOption = some a ↔ result = .ok a := by
  cases result <;> simp [Except.toOption]

theorem mapM_eq_ok_iff {read : α → Except ε β} {items : List α} {results : List β} :
    items.mapM read = .ok results ↔
      List.Forall₂ (fun item result => read item = .ok result) items results := by
  induction items generalizing results with
  | nil =>
      cases results with
      | nil => simp
      | cons result results => simp
  | cons item items ih =>
      rw [List.mapM_cons, bind_eq_ok_iff, List.forall₂_cons_left_iff]
      constructor
      · rintro ⟨result, hread, htail⟩
        obtain ⟨tail, hmap, hcons⟩ := bind_eq_ok_iff.mp htail
        cases hcons
        exact ⟨result, tail, hread, ih.mp hmap, rfl⟩
      · rintro ⟨result, tail, hread, hmap, rfl⟩
        exact ⟨result, hread, bind_eq_ok_iff.mpr ⟨tail, ih.mpr hmap, rfl⟩⟩

/-- A loop succeeds if every element does. -/
theorem exists_mapM_eq_ok_iff {read : α → Except ε β} {items : List α} :
    (∃ results, items.mapM read = .ok results) ↔
      ∀ item ∈ items, ∃ result, read item = .ok result := by
  induction items with
  | nil => simp
  | cons item items ih =>
      rw [List.forall_mem_cons, ← ih]
      simp only [mapM_eq_ok_iff, List.forall₂_cons_left_iff]
      constructor
      · intro h
        obtain ⟨_, result, results, hread, hmap, -⟩ := h
        exact ⟨⟨result, hread⟩, ⟨results, hmap⟩⟩
      · intro h
        obtain ⟨⟨result, hread⟩, ⟨results, hmap⟩⟩ := h
        exact ⟨_, result, results, hread, hmap, rfl⟩

/-- A loop fails with the failure of an element before which every element succeeds. -/
theorem mapM_eq_error_iff {read : α → Except ε β} {items : List α} {e : ε} :
    items.mapM read = .error e ↔
      ∃ before item after, items = before ++ item :: after ∧
        (∀ earlier ∈ before, ∃ result, read earlier = .ok result) ∧ read item = .error e := by
  induction items with
  | nil => simp
  | cons item items ih =>
      rw [List.mapM_cons, bind_eq_error_iff]
      constructor
      · rintro (hread | ⟨result, hread, htail⟩)
        · exact ⟨[], item, items, rfl, by simp, hread⟩
        · rcases bind_eq_error_iff.mp htail with hmap | ⟨tail, -, hcons⟩
          · obtain ⟨before, later, after, rfl, hbefore, hlater⟩ := ih.mp hmap
            refine ⟨item :: before, later, after, rfl, ?_, hlater⟩
            intro earlier member
            rcases List.mem_cons.mp member with rfl | member
            · exact ⟨result, hread⟩
            · exact hbefore earlier member
          · cases hcons
      · rintro ⟨before, later, after, hsplit, hbefore, hlater⟩
        cases before with
        | nil =>
            obtain ⟨rfl, rfl⟩ := List.cons.inj hsplit
            exact Or.inl hlater
        | cons first before =>
            obtain ⟨rfl, rfl⟩ := List.cons.inj hsplit
            obtain ⟨result, hread⟩ := hbefore item (by simp)
            refine Or.inr ⟨result, hread, bind_eq_error_iff.mpr (Or.inl (ih.mpr ?_))⟩
            exact ⟨before, later, after, rfl,
              fun earlier member => hbefore earlier (by simp [member]), hlater⟩

/-- Reading part by part is reading everything in order. -/
theorem mapM_flatten (read : α → Except ε β) (parts : List (List α)) :
    parts.flatten.mapM read = (parts.mapM (·.mapM read) >>= fun found => pure found.flatten) := by
  induction parts with
  | nil => rfl
  | cons part parts ih =>
      rw [List.flatten_cons, List.mapM_append, ih, List.mapM_cons]
      simp

/-- What is made of each result can be made of all of them in the end. -/
theorem mapM_bind_pure (read : α → Except ε β) (make : β → σ) (items : List α) :
    items.mapM (fun item => read item >>= fun result => pure (make result)) =
      (items.mapM read >>= fun results => pure (results.map make)) := by
  induction items with
  | nil => rfl
  | cons item items ih =>
      rw [List.mapM_cons, List.mapM_cons, ih]
      simp only [bind_assoc, pure_bind, List.map_cons]

/-- A fold that reads each element first is a fold over what was read. -/
theorem foldlM_eq_mapM_foldl (read : α → Except ε β) (step : σ → β → σ) (items : List α)
    (start : σ) :
    items.foldlM (fun state item => read item >>= fun result => pure (step state result)) start =
      (items.mapM read >>= fun results => pure (results.foldl step start)) := by
  induction items generalizing start with
  | nil => rfl
  | cons item items ih =>
      rw [List.foldlM_cons, List.mapM_cons]
      simp only [bind_assoc, pure_bind, ih, List.foldl_cons]

/-! ## Reading one element at a time -/

variable {step : σ → α → Option σ} {items front back : List α}

/-- What comes first is read first. -/
theorem foldlM_append_of_eq_some {start next : σ} (h : front.foldlM step start = some next) :
    (front ++ back).foldlM step start = back.foldlM step next := by
  rw [List.foldlM_append, h]
  rfl

/-- Elements that leave the state as it is. -/
theorem foldlM_stay {state : σ} (h : ∀ item ∈ items, step state item = some state) :
    items.foldlM step state = some state := by
  induction items with
  | nil => rfl
  | cons item items ih =>
      obtain ⟨hitem, hitems⟩ := List.forall_mem_cons.mp h
      rw [List.foldlM_cons, hitem]
      exact ih hitems

/-- Elements that are put one behind the other. -/
theorem foldlM_collect (state : List α → σ)
    (h : ∀ item ∈ items, ∀ taken, step (state taken) item = some (state (taken ++ [item])))
    (taken : List α) : items.foldlM step (state taken) = some (state (taken ++ items)) := by
  induction items generalizing taken with
  | nil => simp
  | cons item items ih =>
      obtain ⟨hitem, hitems⟩ := List.forall_mem_cons.mp h
      rw [List.foldlM_cons, hitem]
      simpa using ih hitems (taken ++ [item])

end BenchLog.Loop
