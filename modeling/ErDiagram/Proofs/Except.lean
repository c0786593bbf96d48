/-!
# Computations that succeed

A computation that can fail is taken apart from its result: if a chain of steps succeeds, so does
each step, and the result of the chain is that of the last one.

These are equivalences, one for each way of putting computations together and one for each
outcome, so that a proof about a function that can fail is a matter of rewriting, and no case is
met twice. For a list of steps there is one more, which says that a run succeeds if every step
does that is reached.
-/

namespace ErDiagram

variable {ε ε' α β : Type}

theorem Except.mapError_eq_ok {f : ε → ε'} {x : Except ε α} {a : α} :
    x.mapError f = .ok a ↔ x = .ok a := by
  cases x with
  | error e => exact ⟨nofun, nofun⟩
  | ok b => exact ⟨fun h => by cases h; rfl, fun h => by cases h; rfl⟩

theorem Except.mapError_eq_error {f : ε → ε'} {x : Except ε α} {e' : ε'} :
    x.mapError f = .error e' ↔ ∃ e, x = .error e ∧ f e = e' := by
  cases x with
  | error e =>
    exact ⟨fun h => ⟨e, rfl, Except.error.inj h⟩, fun ⟨_, he, h⟩ => by cases he; rw [← h]; rfl⟩
  | ok a => exact ⟨nofun, nofun⟩

theorem Except.bind_eq_ok {x : Except ε α} {f : α → Except ε β} {b : β} :
    (x >>= f) = .ok b ↔ ∃ a, x = .ok a ∧ f a = .ok b := by
  cases x with
  | error e => exact ⟨nofun, nofun⟩
  | ok a => exact ⟨fun h => ⟨a, rfl, h⟩, fun ⟨_, ha, h⟩ => by cases ha; exact h⟩

theorem Except.bind_eq_error {x : Except ε α} {f : α → Except ε β} {e : ε} :
    (x >>= f) = .error e ↔ x = .error e ∨ ∃ a, x = .ok a ∧ f a = .error e := by
  cases x with
  | error e' =>
    refine ⟨fun h => .inl (congrArg _ (Except.error.inj h)), ?_⟩
    rintro (h | ⟨_, h, _⟩)
    · exact congrArg _ (Except.error.inj h)
    · cases h
  | ok a =>
    refine ⟨fun h => .inr ⟨a, rfl, h⟩, ?_⟩
    rintro (h | ⟨_, ha, h⟩)
    · cases h
    · cases ha
      exact h

theorem Except.map_eq_ok {x : Except ε α} {f : α → β} {b : β} :
    x.map f = .ok b ↔ ∃ a, x = .ok a ∧ f a = b := by
  cases x with
  | error e => exact ⟨nofun, nofun⟩
  | ok a => exact ⟨fun h => ⟨a, rfl, Except.ok.inj h⟩, fun ⟨_, ha, h⟩ => by cases ha; rw [← h]; rfl⟩

/-- **Two computations that agree up to a function** go on to agree, if what follows them agrees
wherever their results do. -/
theorem Except.map_bind_congr {γ δ : Type} {x x' : Except ε α} {f : α → γ}
    {k k' : α → Except ε β} {g : β → δ} (h : x'.map f = x.map f)
    (hk : ∀ a a', f a' = f a → (k' a').map g = (k a).map g) :
    (x' >>= k').map g = (x >>= k).map g := by
  cases x with
  | error e =>
    cases x' with
    | error e' =>
      cases Except.error.inj h
      rfl
    | ok a' => cases h
  | ok a =>
    cases x' with
    | error e' => cases h
    | ok a' => exact hk a a' (Except.ok.inj h)

theorem Except.exists_eq_ok_of_isOk {x : Except ε α} (h : x.isOk = true) : ∃ a, x = .ok a := by
  cases x with
  | error e => cases h
  | ok a => exact ⟨a, rfl⟩

/-- **A chain of steps succeeds exactly if every step of it does that is reached.** A step that is
behind a failure is never reached, and so nothing is asked of it. -/
theorem Except.exists_foldlM_eq_ok_iff {f : β → α → Except ε β} {b : β} {l : List α} :
    (∃ c, l.foldlM f b = .ok c) ↔
      ∀ before a after b', l = before ++ a :: after → before.foldlM f b = .ok b' →
        ∃ c, f b' a = .ok c := by
  constructor
  · rintro ⟨c, hc⟩ before a after b' rfl hb'
    rw [List.foldlM_append, hb'] at hc
    obtain ⟨b'', hb'', -⟩ := Except.bind_eq_ok.1 ((List.foldlM_cons ..).symm.trans hc)
    exact ⟨b'', hb''⟩
  · intro h
    induction l generalizing b with
    | nil => exact ⟨b, rfl⟩
    | cons a l ih =>
      obtain ⟨b', hb'⟩ := h [] a l b rfl rfl
      rw [List.foldlM_cons, hb']
      refine ih fun before a' after b'' hl hb'' => h (a :: before) a' after b'' ?_ ?_
      · rw [hl, List.cons_append]
      · rw [List.foldlM_cons, hb']
        exact hb''

/-- **A list of steps that all succeed.** -/
theorem Except.mapM_eq_ok {f : α → Except ε β} {h : α → β} {l : List α}
    (hl : ∀ a ∈ l, f a = .ok (h a)) : l.mapM f = .ok (l.map h) := by
  induction l with
  | nil => rfl
  | cons a l ih =>
    rw [List.forall_mem_cons] at hl
    rw [List.mapM_cons, hl.1, ih hl.2]
    rfl

/-- A list of steps one of which fails. -/
theorem Except.exists_mapM_eq_error {f : α → Except ε β} {l : List α} {a : α} {e : ε} (ha : a ∈ l)
    (hf : f a = .error e) : ∃ e, l.mapM f = .error e := by
  induction l with
  | nil => cases ha
  | cons b l ih =>
    rw [List.mapM_cons]
    cases hb : f b with
    | error e' => exact ⟨e', rfl⟩
    | ok c =>
      rcases List.mem_cons.1 ha with rfl | ha
      · rw [hf] at hb
        cases hb
      · obtain ⟨e', he'⟩ := ih ha
        exact ⟨e', by rw [he']; rfl⟩

end ErDiagram
