import ErDiagram.Proofs.Line.Script

/-!
# Where plain lines go wrong

Lines are read one after the other, so that what comes after a line cannot mend it: a line that
cannot be read where it stands is the error of every text that starts in the same way. Apart from
that only the end of a text can be wrong. A block is open there, the error names the line that
opened it, and all lines after this one are lines of the block.

Both kinds of error are described without the reader's state. The first wrong line is told by what
becomes of the text when it is cut before and behind this line (`IsFirstFault`), and the open
block by the lines that it consists of (`EndsInBlock`). A cut is the natural thing to compare
with, as the numbers of lines are counted from the start and do not change when the end is taken
away.

`State.run` reads lines without asking for a closed block at the end. It is what makes the reader
compositional: the lines in front of a cut leave a state, possibly inside of a block, and reading
goes on from it. Everything else is an induction on the lines that are left.
-/

namespace ErDiagram.Line

/-! ## Reading up to some line

The reader checks at the end that no block is open. For a part of a text this check comes too
early, and so parts are read without it. -/

/-- Reads lines from a state on; a block may be open after them. This is the reader without its
check at the end, which is what can be cut in two (`readAll_append`). -/
def State.run (s : State) (ls : List NumberedLine) : Except SyntaxError State :=
  ls.foldlM State.read s

/-- **Reading is done in two parts**, the second one from where the first one has led. The first
part has no end of its own, and so it is no error if it stops inside of a block. -/
theorem State.readAll_append (s : State) (ls rest : List NumberedLine) :
    s.readAll (ls ++ rest) = s.run ls >>= fun s' => s'.readAll rest := by
  induction ls generalizing s with
  | nil => rfl
  | cons l ls ih =>
    rw [List.cons_append, readAll, run, List.foldlM_cons]
    cases s.read l with
    | error e => rfl
    | ok s' => exact ih s'

theorem State.readAll_eq_run (s : State) (ls : List NumberedLine) :
    s.readAll ls = s.run ls >>= fun s' => s'.readAll [] := by
  have h := s.readAll_append ls []
  rwa [List.append_nil] at h

/-- The error of a line is on this line. -/
theorem State.line_of_read_eq_error {s : State} {l : NumberedLine} {e : SyntaxError}
    (h : s.read l = .error e) : e.line = l.line := by
  unfold State.read at h
  split at h
  · next e' hl =>
    obtain ⟨_, _, rfl⟩ := Except.mapError_eq_error.1 hl
    rw [← Except.error.inj h]
  · next line _ =>
    have hfail : ∀ cause, l.fail (α := State) cause = .error e → e.line = l.line :=
      fun cause hcause => by rw [← Except.error.inj hcause]
    unfold State.step at h
    split at h
    · cases h
    · split at h
      · exact hfail _ h
      · cases h
    · split at h
      · exact hfail _ h
      · cases h
    · split at h <;> cases h
    · split at h
      · exact hfail _ h
      · cases h
    · split at h
      · cases h
      · split at h
        · cases h
        · exact hfail _ h

/-- **Lines go wrong at one of them**, up to which all is well. The lines behind it are never
looked at, and so they are arbitrary. -/
theorem State.exists_of_run_eq_error {s : State} {ls : List NumberedLine} {e : SyntaxError}
    (h : s.run ls = .error e) :
    ∃ before l after s', ls = before ++ l :: after ∧ s.run before = .ok s' ∧
      s'.read l = .error e := by
  induction ls generalizing s with
  | nil => cases h
  | cons l ls ih =>
    rw [run, List.foldlM_cons] at h
    rcases Except.bind_eq_error.1 h with h | ⟨s₁, hread, h⟩
    · exact ⟨[], l, ls, s, rfl, rfl, h⟩
    · obtain ⟨before, l', after, s', rfl, hrun, hfault⟩ := ih h
      refine ⟨l :: before, l', after, s', rfl, ?_, hfault⟩
      rw [run, List.foldlM_cons, hread]
      exact hrun

/-- At the end of the lines no block may be open. -/
theorem State.readAll_nil_eq_error_iff {s : State} {e : SyntaxError} :
    s.readAll [] = .error e ↔
      ∃ b, s.block = some b ∧ e = ⟨.unclosedBlock b.entity, b.line⟩ := by
  unfold State.readAll
  cases s.block with
  | none =>
    constructor
    · intro h
      cases h
    · rintro ⟨_, hb, _⟩
      cases hb
  | some b =>
    constructor
    · intro h
      exact ⟨b, rfl, (Except.error.inj h).symm⟩
    · rintro ⟨_, hb, h⟩
      cases hb
      rw [h]

/-! ## A block that is open

Where a block is open after some lines, one of these has opened it. The lines are cut there: in
front of it there is a text of its own, and behind it there are rows. -/

theorem Rows.append {ls ls' : List NumberedLine} {attributes attributes' : List Attribute}
    (h : Rows ls attributes) (h' : Rows ls' attributes') :
    Rows (ls ++ ls') (attributes ++ attributes') := by
  induction h with
  | nil => exact h'
  | blank hl _ ih => exact .blank hl ih
  | «attribute» hl _ ih => exact .attribute hl ih

/-- **One line outside of blocks** opens a block or leaves none open. Only a name with a brace
behind it opens one, and the header does not, even with a brace. -/
theorem State.block_of_read_outside {d : Diagram} {s : State} {l : NumberedLine}
    (h : (State.mk none d).read l = .ok s) :
    s.block = none ∨ ∃ name, s.block = some ⟨name, l.line⟩ ∧
      l.classify false = .ok (.entity name true) ∧ isHeader name = false := by
  unfold State.read at h
  split at h
  · cases h
  next line hl =>
  cases line with
  | blank | relationship =>
    cases h
    exact .inl rfl
  | «attribute» | blockEnd => cases h
  | entity name opensBlock =>
    by_cases hn : isHeader name = true
    · cases (State.step_header hn _ _ _).symm.trans h
      exact .inl rfl
    · rw [Bool.not_eq_true] at hn
      cases (State.step_entity hn _ _ _).symm.trans h
      cases opensBlock with
      | false => exact .inl rfl
      | true => exact .inr ⟨name, rfl, hl, hn⟩
  | key name value =>
    by_cases ht : isTitleKey name = true
    · cases (State.step_title ht _ _ _).symm.trans h
      exact .inl rfl
    by_cases hn : isHeader name = true
    · cases (State.step_headerKey hn _ _ _).symm.trans h
      exact .inl rfl
    · rw [State.step, if_neg ht, if_neg hn] at h
      cases h

/-- **One line inside of a block** closes it or is one of its rows. All that a line can say in a
block otherwise is an error. -/
theorem State.block_of_read_inside {b : Block} {d : Diagram} {s : State} {l : NumberedLine}
    (h : (State.mk (some b) d).read l = .ok s) :
    s.block = none ∨ s.block = some b ∧ ∃ attributes, Rows [l] attributes := by
  unfold State.read at h
  split at h
  · cases h
  next line hl =>
  have houter := (names_of_classify (NumberedLine.classify_eq_ok.1 hl)).2 rfl
  cases line with
  | blank =>
    cases h
    exact .inr ⟨rfl, _, .blank hl .nil⟩
  | «attribute» =>
    cases h
    exact .inr ⟨rfl, _, .attribute hl .nil⟩
  | blockEnd =>
    cases h
    exact .inl rfl
  | relationship => cases h
  | entity | key => cases houter

/-- **Where an open block starts**, and what follows there: the line that opens it, in front of
which no block is open, and behind it nothing but rows. Blocks do not nest, so that the last line
which opens one is the one that is meant. -/
theorem State.exists_of_run_open {d d' : Diagram} {b : Block} {ls : List NumberedLine}
    (h : (State.mk none d).run ls = .ok ⟨some b, d'⟩) :
    ∃ before opening rows d₁ attributes, ls = before ++ opening :: rows ∧
      (State.mk none d).run before = .ok ⟨none, d₁⟩ ∧
      opening.classify false = .ok (.entity b.entity true) ∧ isHeader b.entity = false ∧
      b.line = opening.line ∧ Rows rows attributes := by
  -- the last line opens the block or is one of its rows
  induction ls using List.reverseRecOn generalizing d' with
  | nil => cases h
  | append_singleton ls l ih =>
    unfold run at h
    rw [List.foldlM_append] at h
    obtain ⟨⟨block, d₂⟩, hrun, h⟩ := Except.bind_eq_ok.1 h
    rw [List.foldlM_cons] at h
    obtain ⟨_, hread, h⟩ := Except.bind_eq_ok.1 h
    cases h
    cases block with
    | none =>
      rcases block_of_read_outside hread with hb | ⟨name, hb, hl, hn⟩
      · cases hb
      · cases hb
        exact ⟨ls, l, [], d₂, [], rfl, hrun, hl, hn, rfl, .nil⟩
    | some b' =>
      rcases block_of_read_inside hread with hb | ⟨hb, attributes', hrow⟩
      · cases hb
      · cases hb
        obtain ⟨before, opening, rows, d₁, attributes, rfl, hbefore, hl, hn, hline, hrows⟩ :=
          ih hrun
        refine ⟨before, opening, rows ++ [l], d₁, attributes ++ attributes', ?_, hbefore, hl, hn,
          hline, hrows.append hrow⟩
        rw [List.append_assoc, List.cons_append]

/-! ## Numbered lines

Numbers are counted from the start of the text. A text that is cut keeps the numbers of what is
left, so that an error is the same in both. -/

/-- The numbers of the first lines do not depend on the later ones. -/
theorem exists_ofLines_append (source more : List (List Char)) :
    ∃ rest, NumberedLine.ofLines (source ++ more) = NumberedLine.ofLines source ++ rest := by
  unfold NumberedLine.ofLines
  rw [List.zipIdx_append, List.map_append]
  exact ⟨_, rfl⟩

theorem length_ofLines (source : List (List Char)) :
    (NumberedLine.ofLines source).length = source.length := by
  unfold NumberedLine.ofLines
  rw [List.length_map, List.length_zipIdx]

/-- **A line is numbered by its place**, and the lines up to it are those of the text up to it. -/
theorem ofLines_eq_append_cons {source : List (List Char)} {before after : List NumberedLine}
    {l : NumberedLine} (h : NumberedLine.ofLines source = before ++ l :: after) :
    l.line = before.length + 1 ∧ l.line ≤ source.length ∧
      NumberedLine.ofLines (source.take (l.line - 1)) = before ∧
      NumberedLine.ofLines (source.take l.line) = before ++ [l] := by
  have hline : l.line = before.length + 1 := by
    have hl : (NumberedLine.ofLines source)[before.length]? = some l := by
      rw [h, List.getElem?_append_right le_rfl, Nat.sub_self]
      rfl
    unfold NumberedLine.ofLines at hl
    rw [List.getElem?_map, List.getElem?_zipIdx, Option.map_map] at hl
    obtain ⟨cs, _, rfl⟩ := Option.map_eq_some_iff.1 hl
    exact congrArg (· + 1) (Nat.zero_add _)
  have hlength : before.length + 1 ≤ source.length := by
    rw [← length_ofLines, h, List.length_append, List.length_cons]
    omega
  have htake : ∀ k ≤ source.length,
      NumberedLine.ofLines (source.take k) = (NumberedLine.ofLines source).take k := by
    intro k hk
    obtain ⟨rest, hrest⟩ := exists_ofLines_append (source.take k) (source.drop k)
    rw [List.take_append_drop] at hrest
    rw [hrest, List.take_left' (by rw [length_ofLines, List.length_take_of_le hk])]
  rw [hline]
  refine ⟨rfl, hlength, ?_, ?_⟩
  · rw [htake _ (by omega), h, Nat.add_sub_cancel, List.take_left]
  · rw [htake _ hlength, h, List.take_length_add_append]
    rfl

/-! ## The error of plain lines -/

theorem ofLines_eq_error_iff_readAll {source : List (List Char)} {r : ReadingError} :
    Document.ofLines source = .error r ↔
      ∃ e, r = .invalid e ∧
        (State.mk none {}).readAll (NumberedLine.ofLines source) = .error e := by
  unfold Document.ofLines ReadingError.ofSyntax
  rw [Except.mapError_eq_error]
  exact exists_congr fun e => ⟨fun h => ⟨h.2.symm, h.1⟩, fun h => ⟨h.2, h.1.symm⟩⟩

/-- **The first line that is wrong**: up to it nothing is, but for a block that it would close or
continue, and whatever stands behind it, it is the error of the text.

Both parts are about texts that are cut, so that the definition does not mention how lines are
read. The exception in the first part cannot be avoided: the lines up to the middle of a block are
a text that ends inside of the block, and that is an error of its own kind. -/
structure IsFirstFault (source : List (List Char)) (e : SyntaxError) : Prop where
  /-- Without the line, at most the end of the text is wrong: the cut may have left a block open. -/
  before : ∀ r, Document.ofLines (source.take (e.line - 1)) = .error r →
    ∃ name line, r = .invalid ⟨.unclosedBlock name, line⟩
  /-- With the line, the text has this error however it goes on. This includes the text itself. -/
  anyway : ∀ more, Document.ofLines (source.take e.line ++ more) = .error (.invalid e)

/-- **A text that ends inside of a block**, which is opened on some line.

The error is found at the end of the text and stands at the line that opens the block. So the
definition says what there is on both sides of this line: a text of its own in front of it, and
rows of the block, to the end, behind it. -/
structure EndsInBlock (source : List (List Char)) (line : ℕ) (name : String) : Prop where
  /-- Before the block nothing is wrong, and no other block is open: the lines up to it are a text
  that can be read. -/
  before : ∃ d, Document.ofLines (source.take (line - 1)) = .ok d
  /-- The line opens the block. -/
  opening : ∃ l, (NumberedLine.ofLines source)[line - 1]? = some l ∧
    l.classify false = .ok (.entity name true) ∧ isHeader name = false
  /-- All later lines are blank or attributes of the block. A brace that closes it is not among
  them. -/
  rows : ∃ attributes, Rows ((NumberedLine.ofLines source).drop line) attributes

/-- A line that cannot be read where it stands is the first one that is wrong. -/
theorem isFirstFault_of_read {source : List (List Char)} {before after : List NumberedLine}
    {l : NumberedLine} {s : State} {e : SyntaxError}
    (h : NumberedLine.ofLines source = before ++ l :: after)
    (hrun : (State.mk none {}).run before = .ok s) (hread : s.read l = .error e) :
    IsFirstFault source e := by
  obtain ⟨-, -, hbefore, hupto⟩ := ofLines_eq_append_cons h
  rw [← State.line_of_read_eq_error hread] at hbefore hupto
  refine ⟨fun r hr => ?_, fun more => ofLines_eq_error_iff_readAll.2 ⟨e, rfl, ?_⟩⟩
  · obtain ⟨e', rfl, hend⟩ := ofLines_eq_error_iff_readAll.1 hr
    rw [hbefore, State.readAll_eq_run, hrun] at hend
    obtain ⟨b, _, rfl⟩ := State.readAll_nil_eq_error_iff.1 hend
    exact ⟨b.entity, b.line, rfl⟩
  · obtain ⟨rest, hrest⟩ := exists_ofLines_append (source.take e.line) more
    rw [hrest, hupto, List.append_assoc, State.readAll_append, hrun]
    show s.readAll (l :: rest) = .error e
    rw [State.readAll, hread]

/-- Lines that can be read to their end leave no block open. -/
theorem State.run_of_readAll {s : State} {ls : List NumberedLine} {d : Diagram}
    (h : s.readAll ls = .ok d) : s.run ls = .ok ⟨none, d⟩ := by
  rw [readAll_eq_run] at h
  obtain ⟨⟨block, d'⟩, hrun, hend⟩ := Except.bind_eq_ok.1 h
  cases block with
  | none =>
    cases hend
    exact hrun
  | some b => cases hend

/-- A text that ends inside of a block has this block as its error. -/
theorem EndsInBlock.readAll {source : List (List Char)} {line : ℕ} {name : String}
    (h : EndsInBlock source line name) (hline : 1 ≤ line) :
    (State.mk none {}).readAll (NumberedLine.ofLines source)
      = .error ⟨.unclosedBlock name, line⟩ := by
  obtain ⟨⟨d, hd⟩, ⟨opening, hopening, hl, hn⟩, attributes, hrows⟩ := h
  obtain ⟨hlt, hget⟩ := List.getElem?_eq_some_iff.1 hopening
  have hsplit : NumberedLine.ofLines source = (NumberedLine.ofLines source).take (line - 1)
      ++ opening :: (NumberedLine.ofLines source).drop line := by
    have hdrop := List.drop_eq_getElem_cons hlt
    rw [hget, Nat.sub_add_cancel hline] at hdrop
    rw [← hdrop, List.take_append_drop]
  obtain ⟨hnumber, -, hbefore, -⟩ := ofLines_eq_append_cons hsplit
  rw [List.length_take_of_le hlt.le, Nat.sub_add_cancel hline] at hnumber
  rw [hnumber] at hbefore
  have hrun : (State.mk none {}).run ((NumberedLine.ofLines source).take (line - 1))
      = .ok ⟨none, d⟩ := by
    unfold Document.ofLines ReadingError.ofSyntax at hd
    rw [← hbefore]
    exact State.run_of_readAll (Except.mapError_eq_ok.1 hd)
  rw [hsplit, State.readAll_append, hrun]
  show (State.mk none d).readAll (opening :: _) = _
  rw [State.readAll_cons hl (State.step_entity hn _ _ _), if_pos rfl,
    ← List.append_nil (List.drop line _), hrows.readAll, hnumber]
  rfl

/-- **The error of plain lines stands where they go wrong first.** There is one exactly if some
line is the first that is wrong, or if the text ends inside of a block; then it is the line that
opens the block. There are no other errors of plain lines: a failure of another kind than a syntax
error would contradict the direction from left to right. -/
theorem ofLines_eq_error_iff {source : List (List Char)} {r : ReadingError} :
    Document.ofLines source = .error r ↔
      ∃ e, r = .invalid e ∧ 1 ≤ e.line ∧ e.line ≤ source.length ∧
        (IsFirstFault source e ∨
          ∃ name, e.cause = .unclosedBlock name ∧ EndsInBlock source e.line name) := by
  constructor
  · intro h
    obtain ⟨e, rfl, hall⟩ := ofLines_eq_error_iff_readAll.1 h
    rw [State.readAll_eq_run] at hall
    rcases Except.bind_eq_error.1 hall with hfail | ⟨⟨block, d⟩, hrun, hend⟩
    · obtain ⟨before, l, after, s, hsplit, hrun, hread⟩ := State.exists_of_run_eq_error hfail
      have hfault := isFirstFault_of_read hsplit hrun hread
      obtain ⟨hnumber, hle, -, -⟩ := ofLines_eq_append_cons hsplit
      rw [← State.line_of_read_eq_error hread] at hnumber hle
      exact ⟨e, rfl, by omega, hle, .inl hfault⟩
    · obtain ⟨b, hb, rfl⟩ := State.readAll_nil_eq_error_iff.1 hend
      cases hb
      obtain ⟨before, opening, rows, d₁, attributes, hsplit, hbefore, hl, hn, hline, hrows⟩ :=
        State.exists_of_run_open hrun
      obtain ⟨hnumber, hle, htake, -⟩ := ofLines_eq_append_cons hsplit
      rw [← hline] at hnumber hle htake
      have hpos : 1 ≤ b.line := by omega
      refine ⟨_, rfl, hpos, hle, .inr ⟨b.entity, rfl, ⟨d₁, ?_⟩, ⟨opening, ?_, hl, hn⟩,
        attributes, ?_⟩⟩
      · unfold Document.ofLines ReadingError.ofSyntax
        rw [Except.mapError_eq_ok, htake, Diagram.readLines, State.readAll_eq_run, hbefore]
        rfl
      · rw [hsplit, hnumber, Nat.add_sub_cancel, List.getElem?_append_right le_rfl, Nat.sub_self]
        rfl
      · rw [hsplit, hnumber, List.drop_length_add_append]
        exact hrows
  · rintro ⟨e, rfl, hpos, -, hfault | ⟨name, hcause, hopen⟩⟩
    · have hsame := hfault.anyway (source.drop e.line)
      rwa [List.take_append_drop] at hsame
    · refine ofLines_eq_error_iff_readAll.2 ⟨e, rfl, ?_⟩
      rw [hopen.readAll hpos, ← hcause]

end ErDiagram.Line
