import ErDiagram.Proofs.Line.Recognition

/-!
# Where tokens stand in their line

The column of a token comes from one of four places: the start of its word, the part of a glued
word that is in front of it, the colon, or the blanks in front of the label. Wherever it comes
from, the token stands there: what the line has from this column on is what the token holds, with
square brackets around it if it is a name that was written so.

Two halves meet at `Tiles`, which cuts a text into tokens and blanks without a rest. Words, glued
words and labels are cut that way, each for its own reason, and what is cut one after the other is
cut as a whole. Whatever is cut that way has its tokens one behind the other, each where it says
it is, and blanks everywhere else.

The first half never speaks of two tokens at a time, and the second never of how a token came
about. A token of a new kind would have to be fitted into the first half alone.
-/

namespace ErDiagram.Line

open Text

/-! ## What a token takes up -/

/-- **What stands in a line for a token**: its characters, or a name in square brackets. A name
that starts with a bracket itself is excluded from the first case, so that the two cannot be
confused when one looks at the line. -/
inductive Token.IsWrittenAs (t : Token) : List Char → Prop where
  | plain : t.chars ≠ [] → (t.kind = .ident → t.chars.head? ≠ some '[') → t.IsWrittenAs t.chars
  | bracketed : t.kind = .ident → t.IsWrittenAs ('[' :: (t.chars ++ [']']))

/-- **What a token takes up in its line**: its characters, and the brackets around a name if the
line has one where the token starts. A token does not remember whether it had brackets, so that
the line has to be asked. -/
def Token.written (whole : List Char) (t : Token) : List Char :=
  if t.kind = .ident ∧ whole[t.column]? = some '[' then '[' :: (t.chars ++ [']']) else t.chars

/-- The column behind a token, and so behind its brackets if it has any. -/
def Token.stop (whole : List Char) (t : Token) : Nat := t.column + (t.written whole).length

namespace Token

variable {t : Token} {whole w rest : List Char}

theorem IsWrittenAs.ne_nil (h : t.IsWrittenAs w) : w ≠ [] := by
  cases h with
  | plain hne => exact hne
  | bracketed => exact List.cons_ne_nil _ _

/-- **A line has what is written for a token** where the token starts. -/
theorem IsWrittenAs.written_eq (h : t.IsWrittenAs w) (hline : whole.drop t.column = w ++ rest) :
    t.written whole = w := by
  have hfirst : whole[t.column]? = w.head? := by
    obtain ⟨c, cs, rfl⟩ := List.exists_cons_of_ne_nil h.ne_nil
    rw [← Nat.add_zero t.column, ← List.getElem?_drop, hline]
    rfl
  rw [written, hfirst]
  cases h with
  | plain _ hbracket => rw [if_neg fun hident => hbracket hident.1 hident.2]
  | bracketed hident => rw [if_pos ⟨hident, rfl⟩]

end Token

/-! ## Texts cut into tokens and blanks

`Tiles` is closed under putting texts one behind the other, and it implies all that is wanted of
columns. So the rest is to show that each part of a line is cut in this way. -/

/-- **A text that starts in some column, cut into tokens and blanks** without a rest. A token
stands at the very place where what is written for it begins, which is why the column is carried
along. -/
inductive Tiles : Nat → List Char → List Token → Prop where
  | done {n} : Tiles n [] []
  | blank {n b cs l} : isBlank b = true → Tiles (n + 1) cs l → Tiles n (b :: cs) l
  | token {n w cs t l} : t.column = n → t.IsWrittenAs w → Tiles (n + w.length) cs l →
      Tiles n (w ++ cs) (t :: l)

/-- **Tokens that account for a line** from some column on. This is what is wanted of the tokens
of a line, with the column generalized: the induction adds a token in front of those that account
for the line from behind it on. -/
structure AccountFrom (whole : List Char) (n : Nat) (l : List Token) : Prop where
  /-- They start in this column or later. -/
  from_start : ∀ t ∈ l, n ≤ t.column
  /-- They stand one behind the other: a token starts where the one before it has ended, or
  later. -/
  ordered : l.Pairwise fun t u => t.column < u.column ∧ t.stop whole ≤ u.column
  /-- In the line stands what each of them is written as, from its column up to its stop. -/
  slice : ∀ t ∈ l, whole.extract t.column (t.stop whole) = t.written whole
  /-- What no token takes up is blank. With the other fields this says that each character is in
  one token or in none and blank. -/
  blank : ∀ i c, n ≤ i → whole[i]? = some c →
    (∀ t ∈ l, ¬ (t.column ≤ i ∧ i < t.stop whole)) → isBlank c = true

namespace Tiles

variable {n : Nat} {cs cs' whole : List Char} {l l' : List Token} {t : Token}

theorem of_blanks (h : ∀ c ∈ cs, isBlank c = true) (n : Nat) : Tiles n cs [] := by
  induction cs generalizing n with
  | nil => exact .done
  | cons c cs ih =>
    rw [List.forall_mem_cons] at h
    exact .blank h.1 (ih h.2 (n + 1))

theorem single {kind : TokenKind} {chars : List Char}
    (h : Token.IsWrittenAs ⟨kind, chars, n⟩ cs) : Tiles n cs [⟨kind, chars, n⟩] := by
  rw [← List.append_nil cs]
  exact .token rfl h .done

/-- **What is cut one after the other is cut as a whole.** -/
theorem append (h : Tiles n cs l) (h' : Tiles (n + cs.length) cs' l') :
    Tiles n (cs ++ cs') (l ++ l') := by
  induction h with
  | done => simpa using h'
  | blank hb _ ih =>
    refine .blank hb (ih ?_)
    rwa [Nat.add_assoc, Nat.add_comm 1]
  | token hcol hw _ ih =>
    rw [List.append_assoc]
    refine .token hcol hw (ih ?_)
    rwa [Nat.add_assoc, ← List.length_append]

/-- **A line that is cut into tokens and blanks is accounted for by the tokens.** -/
theorem accountFrom (h : Tiles n cs l) (hline : whole.drop n = cs) : AccountFrom whole n l := by
  induction h with
  | @done n =>
    refine ⟨nofun, .nil, nofun, fun i c hi hc _ => ?_⟩
    rw [← Nat.add_sub_of_le hi, ← List.getElem?_drop, hline] at hc
    cases hc
  | @blank n b cs l hb _ ih =>
    have hrest : whole.drop (n + 1) = cs := by rw [← List.drop_drop, hline]; rfl
    obtain ⟨hstart, hordered, hslice, hblank⟩ := ih hrest
    refine ⟨fun t ht => Nat.le_of_succ_le (hstart t ht), hordered, hslice, fun i c hi hc hnot => ?_⟩
    rcases Nat.eq_or_lt_of_le hi with rfl | hlt
    · rw [← Nat.add_zero n, ← List.getElem?_drop, hline] at hc
      cases hc
      exact hb
    · exact hblank i c hlt hc hnot
  | @token n w cs t l hcol hw _ ih =>
    subst hcol
    have hrest : whole.drop (t.column + w.length) = cs := by
      rw [← List.drop_drop, hline, List.drop_left]
    have hwritten : t.written whole = w := hw.written_eq hline
    have hstop : t.stop whole = t.column + w.length := by rw [Token.stop, hwritten]
    have hpos : 0 < w.length := List.length_pos_of_ne_nil hw.ne_nil
    obtain ⟨hstart, hordered, hslice, hblank⟩ := ih hrest
    refine ⟨?_, List.pairwise_cons.2 ⟨fun u hu => ?_, hordered⟩, ?_, fun i c hi hc hnot => ?_⟩
    · refine List.forall_mem_cons.2 ⟨Nat.le_refl _, fun u hu => ?_⟩
      exact Nat.le_trans (Nat.le_add_right _ _) (hstart u hu)
    · have hle := hstart u hu
      rw [hstop]
      exact ⟨by omega, hle⟩
    · refine List.forall_mem_cons.2 ⟨?_, hslice⟩
      rw [List.extract_eq_take_drop, hstop, hwritten, Nat.add_sub_cancel_left, hline,
        List.take_left]
    · rw [List.forall_mem_cons, hstop] at hnot
      exact hblank i c (by omega) hc hnot.2

end Tiles

/-! ## The tokens of words -/

/-- A token that is no name is written as what it holds. -/
theorem isWrittenAs_of_ne_ident {kind : TokenKind} {cs : List Char} {n : Nat}
    (hkind : kind ≠ .ident) (hne : cs ≠ []) : Token.IsWrittenAs ⟨kind, cs, n⟩ cs :=
  .plain (t := ⟨kind, cs, n⟩) hne fun h => absurd h hkind

/-- An identifier does not start with a bracket. -/
theorem isWrittenAs_of_isIdentifier {cs : List Char} {n : Nat} (h : isIdentifier cs = true) :
    Token.IsWrittenAs ⟨.ident, cs, n⟩ cs := by
  obtain ⟨c, rest, rfl, hc⟩ := exists_cons_of_isIdentifier h
  refine .plain (t := ⟨.ident, c :: rest, n⟩) (List.cons_ne_nil c rest) fun _ hbracket => ?_
  cases hbracket
  exact absurd hc (by decide)

/-- **A glued word is cut into its names and its symbol.** -/
theorem tiles_gluedTokens (n : Nat) {s t : List Char} (c : Cardinality)
    (hs : isIdentifier s = true) (ht : t = [] ∨ isIdentifier t = true) :
    Tiles n (s ++ (c.chars ++ t)) (gluedTokens n s c t) := by
  refine .token rfl (isWrittenAs_of_isIdentifier hs) ?_
  refine .token rfl (isWrittenAs_of_ne_ident nofun (isWord_chars c).1) ?_
  rcases ht with rfl | ht
  · exact .done
  · obtain ⟨x, rest, rfl, _⟩ := exists_cons_of_isIdentifier ht
    exact .single (isWrittenAs_of_isIdentifier ht)

/-- **A word is cut into its tokens.** The cases are those of the definition, and only a name in
brackets is written as something else than what its token holds. -/
theorem tiles_wordTokens {n : Nat} {cs : List Char} (hw : IsWord cs) :
    Tiles n cs (wordTokens ⟨n, cs⟩) := by
  have hother {kind : TokenKind} (hkind : kind ≠ .ident) : Tiles n cs [⟨kind, cs, n⟩] :=
    .single (isWrittenAs_of_ne_ident hkind hw.1)
  unfold wordTokens
  dsimp only
  split
  · exact hother nofun
  split
  · exact hother nofun
  split
  · exact hother nofun
  split
  · next hid => exact .single (isWrittenAs_of_isIdentifier hid)
  split
  · cases hsplit : splitGlued? ⟨n, cs⟩ with
    | none => exact hother nofun
    | some l =>
      obtain ⟨c, hc⟩ := splitGlued?_eq_some_iff.1 hsplit
      obtain ⟨s, t, hglued, hs, ht, rfl⟩ := splitAtSymbol?_eq_some_iff.1 hc
      dsimp only at hglued
      subst hglued
      exact tiles_gluedTokens n c hs ht
  · split
    · next name hname =>
      rw [eq_of_bracketed? hname]
      exact .single (.bracketed (t := ⟨.ident, name, n⟩) rfl)
    · exact hother nofun

/-! ## The tokens of a line -/

/-- **A text is cut into the tokens of its words.** Between the words there are blanks, and words
follow each other without touching. -/
theorem tiles_wordsFrom (n : Nat) (cs : List Char) :
    Tiles n cs ((wordsFrom n cs).flatMap wordTokens) := by
  induction cs using runs_induction generalizing n with
  | nil => exact .done
  | blank b cs hb ih =>
    rw [wordsFrom_cons_of_isBlank hb]
    exact .blank hb (ih (n + 1))
  | word w cs hw hend ih =>
    rw [wordsFrom_append hw hend, List.flatMap_cons]
    exact (tiles_wordTokens hw).append (ih (n + w.length))

/-- **What follows the words of a line is cut into the colon and the label**: in front of the label
there are blanks only, so that it is where it is looked for. -/
theorem tiles_labelTokens (n : Nat) (tail : List Char) :
    Tiles n (':' :: tail) (labelTokens n tail) := by
  have hcolon : Tiles n [':'] [⟨.colon, [':'], n⟩] :=
    .single (isWrittenAs_of_ne_ident nofun (List.cons_ne_nil _ _))
  unfold labelTokens
  dsimp only
  by_cases hlabel : strip tail = []
  · rw [if_pos (List.isEmpty_iff.2 hlabel)]
    exact hcolon.append (.of_blanks (strip_eq_nil_iff.1 hlabel) _)
  · rw [if_neg (mt List.isEmpty_iff.1 hlabel)]
    obtain ⟨right, hright, htail⟩ := exists_strip_append tail
    have hleft : ∀ c ∈ tail.takeWhile isBlank, isBlank c = true :=
      List.all_eq_true.1 List.all_takeWhile
    have htoken (m : Nat) : Tiles m (strip tail) [⟨.label, strip tail, m⟩] :=
      .single (isWrittenAs_of_ne_ident nofun hlabel)
    have hrest := (Tiles.of_blanks hleft (n + 1)).append ((htoken _).append (.of_blanks hright _))
    rw [← htail] at hrest
    exact hcolon.append hrest

theorem beforeColon_of_afterColon? {whole : List Char} (h : afterColon? whole = none) :
    beforeColon whole = whole := by
  unfold afterColon? at h
  split at h
  · next hrest =>
    have hline := List.takeWhile_append_dropWhile (p := fun c => decide (c ≠ ':')) (l := whole)
    rwa [hrest, List.append_nil] at hline
  · cases h

theorem beforeColon_append_colon {whole tail : List Char} (h : afterColon? whole = some tail) :
    beforeColon whole ++ ':' :: tail = whole := by
  unfold afterColon? at h
  split at h
  · cases h
  · next x rest hrest =>
    have hx : x = ':' := by
      have hhead := List.head?_dropWhile_not (fun c => decide (c ≠ ':')) whole
      rw [hrest] at hhead
      simpa using hhead
    rw [← Option.some.inj h, ← hx, ← hrest]
    exact List.takeWhile_append_dropWhile

/-- **A line that says something is cut into its tokens.** The two parts of the line meet at the
colon. -/
theorem tiles_tokenize {whole : List Char} (h : Speaks whole) : Tiles 0 whole (tokenize whole) := by
  have hwords := tiles_wordsFrom 0 (beforeColon whole)
  unfold tokenize
  rw [isSilent_eq_false_iff.2 h, if_neg (by decide)]
  dsimp only
  split
  · next hcolon =>
    rw [beforeColon_of_afterColon? hcolon] at hwords ⊢
    rwa [List.append_nil]
  · next tail hcolon =>
    have hlabel := tiles_labelTokens (0 + (beforeColon whole).length) tail
    have hwhole := hwords.append hlabel
    rwa [beforeColon_append_colon hcolon, Nat.zero_add] at hwhole

/-- **No character of a line is lost and none is taken twice.** The tokens of a line that says
something stand one behind the other without a character in common, the line has each of them
where its column says, with the brackets around a name that is written so, and what is left of the
line is blank. Silent lines are left out: a comment has no tokens, and is not blank. -/
theorem tokenize_accounts {whole : List Char} (h : Speaks whole) :
    (tokenize whole).Pairwise (fun t u => t.column < u.column ∧ t.stop whole ≤ u.column) ∧
      (∀ t ∈ tokenize whole, whole.extract t.column (t.stop whole) = t.written whole) ∧
      ∀ i c, whole[i]? = some c → (∀ t ∈ tokenize whole, ¬ (t.column ≤ i ∧ i < t.stop whole)) →
        isBlank c = true := by
  have haccount := (tiles_tokenize h).accountFrom List.drop_zero
  exact ⟨haccount.ordered, haccount.slice, fun i c => haccount.blank i c (Nat.zero_le i)⟩

/-- A glued word has three tokens without a blank between them. The label has brackets of its own,
which are part of what it holds, and a text that is in front of it too. -/
theorem tokenize_accounts_glued :
    let whole := " A||--o\x7bB [A] :  A  [A] ".toList
    let l : List Token :=
      [⟨.ident, ['A'], 1⟩, ⟨.cardinality, "||--o\x7b".toList, 2⟩, ⟨.ident, ['B'], 8⟩,
        ⟨.ident, ['A'], 10⟩, ⟨.colon, [':'], 14⟩, ⟨.label, "A  [A]".toList, 17⟩]
    Speaks whole ∧ tokenize whole = l ∧
      l.map (fun t => t.written whole) =
        [['A'], "||--o\x7b".toList, ['B'], "[A]".toList, [':'], "A  [A]".toList] ∧
      l.Pairwise (fun t u => t.column < u.column ∧ t.stop whole ≤ u.column) ∧
      (∀ t ∈ l, whole.extract t.column (t.stop whole) = t.written whole) ∧
      ∀ i c, whole[i]? = some c → (∀ t ∈ l, ¬ (t.column ≤ i ∧ i < t.stop whole)) →
        isBlank c = true := by
  intro whole l
  have hspeaks : Speaks whole := ⟨by decide, by decide, by decide⟩
  have htokens : tokenize whole = l := by decide
  have haccounts := tokenize_accounts hspeaks
  rw [htokens] at haccounts
  exact ⟨hspeaks, htokens, by decide, haccounts⟩

end ErDiagram.Line
