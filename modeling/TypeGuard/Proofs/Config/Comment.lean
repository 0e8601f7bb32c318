import Mathlib.Data.List.Forall2
import Mathlib.Data.List.Infix
import Mathlib.Data.List.TakeWhile
import TypeGuard.Config.Comment

/-!
# Pieces of configuration texts

A text is a sequence of pieces: single characters, string literals and comments. What stands next in
it tells which piece comes next. Stripping the text keeps its characters and its string literals as
they are, and of its comments the line breaks: `Comment.strip_removes_comments`. A second time it
finds no comment, since a slash that is kept is followed by the same character as before.
-/

namespace TypeGuard.Comment

/-! ### Pieces -/

/-- Whether a comment begins at the front of a text. -/
def opens : List Char → Bool
  | '/' :: '/' :: _ | '/' :: '*' :: _ => true
  | _ => false

/-- A text that can stand between the quotes of a string literal. A backslash takes the next
character with it, whatever that is. -/
inductive InQuotes : List Char → Prop where
  | nil : InQuotes []
  | escape (c : Char) {cs} : InQuotes cs → InQuotes ('\\' :: c :: cs)
  | char {c cs} : c ≠ '"' → c ≠ '\\' → InQuotes cs → InQuotes (c :: cs)

/-- A part of a text, with all its characters. -/
inductive Piece where
  /-- A character outside strings and comments. -/
  | char (c : Char)
  /-- A string literal with its quotes. -/
  | string (text : List Char)
  /-- A comment that ends with the line, without the line break. -/
  | line (text : List Char)
  /-- A comment from `/*` to `*/`. -/
  | block (text : List Char)

namespace Piece

def text : Piece → List Char
  | char c => [c]
  | string text | line text | block text => text

/-- What is left of the piece: all of it, or the line breaks of a comment. -/
def kept : Piece → List Char
  | char c => [c]
  | string text => text
  | line text | block text => text.filter (· == '\n')

def isComment : Piece → Bool
  | char _ | string _ => false
  | line _ | block _ => true

/-- The piece is the first one of the text that it begins, where a given rest follows it. A string
literal or a comment that is not closed goes on to the end of the text. -/
inductive Before : Piece → List Char → Prop where
  | char {c rest} : c ≠ '"' → opens (c :: rest) = false → Before (.char c) rest
  | string {body rest} : InQuotes body → Before (.string ('"' :: (body ++ ['"']))) rest
  | openString {body} : InQuotes body → Before (.string ('"' :: body)) []
  | openEscape {body} : InQuotes body → Before (.string ('"' :: (body ++ ['\\']))) []
  | line {body rest} : '\n' ∉ body → (∀ c ∈ rest.head?, c = '\n') →
      Before (.line ('/' :: '/' :: body)) rest
  | block {body rest} : ¬ ['*', '/'] <:+: body →
      Before (.block ('/' :: '*' :: (body ++ ['*', '/']))) rest
  | openBlock {body} : ¬ ['*', '/'] <:+: body → Before (.block ('/' :: '*' :: body)) []

end Piece

/-- A text is read as a sequence of pieces. -/
inductive Reads : List Char → List Piece → Prop where
  | nil : Reads [] []
  | cons {p : Piece} {rest ps} : p.Before rest → Reads rest ps → Reads (p.text ++ rest) (p :: ps)

/-- A text that ends outside of string literals. -/
inductive Outside : List Char → Prop where
  | nil : Outside []
  | char {c cs} : c ≠ '"' → Outside cs → Outside (c :: cs)
  | string {body cs} : InQuotes body → Outside cs → Outside ('"' :: (body ++ '"' :: cs))

/-- Somewhere outside of the string literals of a text stands `//` or `/*`. -/
def HasOpener (s : List Char) : Prop :=
  ∃ before after, s = before ++ after ∧ Outside before ∧ opens after = true

variable {c : Char} {cs rest body s t : List Char} {p : Piece} {ps : List Piece}

theorem opens_cons_iff :
    opens (c :: cs) = true ↔ c = '/' ∧ (cs.head? = some '/' ∨ cs.head? = some '*') := by
  constructor
  · intro h
    unfold opens at h
    split at h
    · rename_i heq
      cases heq
      simp
    · rename_i heq
      cases heq
      simp
    · cases h
  · rintro ⟨rfl, h⟩
    cases cs with
    | nil => simp at h
    | cons d cs =>
      simp only [List.head?_cons, Option.some.injEq] at h
      rcases h with rfl | rfl <;> rfl

theorem opens_eq_true_iff :
    opens s = true ↔ ∃ rest, s = '/' :: '/' :: rest ∨ s = '/' :: '*' :: rest := by
  constructor
  · intro h
    unfold opens at h
    split at h
    · exact ⟨_, .inl rfl⟩
    · exact ⟨_, .inr rfl⟩
    · cases h
  · rintro ⟨rest, rfl | rfl⟩ <;> rfl

theorem Reads.text_eq (h : Reads s ps) : s = ps.flatMap Piece.text := by
  induction h with
  | nil => rfl
  | cons _ _ ih => rw [List.flatMap_cons, ← ih]

theorem Piece.Before.length_pos (h : p.Before rest) : 0 < p.text.length := by
  cases h <;> simp [text]

/-! ### Stripping a piece -/

theorem stripCode_cons (hquote : c ≠ '"') (hopens : opens (c :: cs) = false) :
    stripCode (c :: cs) = c :: stripCode cs := by
  rw [stripCode]
  · rintro rest rfl rfl
    cases hopens
  · rintro rest rfl rfl
    cases hopens
  · exact hquote

theorem stripString_append (h : InQuotes body) (rest : List Char) :
    stripString (body ++ rest) = body ++ stripString rest := by
  induction h with
  | nil => rfl
  | escape c _ ih => simp [stripString, ih]
  | char _ hescape _ ih => simp [stripString, hescape, ih]

theorem stripLine_append (h : '\n' ∉ body) (hrest : ∀ c ∈ rest.head?, c = '\n') :
    stripLine (body ++ rest) = stripCode rest := by
  induction body with
  | nil =>
    cases rest with
    | nil => simp [stripLine, stripCode]
    | cons c rest =>
      obtain rfl := hrest c rfl
      simp [stripLine, stripCode]
  | cons c body ih =>
    rw [List.mem_cons, not_or] at h
    simp [stripLine, Ne.symm h.1, ih h.2]

/-- A character of a comment is kept if it is a line break. -/
theorem stripBlock_cons (h : c = '*' → cs.head? ≠ some '/') :
    stripBlock (c :: cs) = [c].filter (· == '\n') ++ stripBlock cs := by
  by_cases hline : c = '\n'
  · simp [hline, stripBlock]
  · rw [stripBlock]
    · simp [hline]
    · rintro rest rfl rfl
      exact h rfl rfl
    · exact hline

theorem stripBlock_append (h : ¬ ['*', '/'] <:+: body) (rest : List Char)
    (hrest : rest.head? ≠ some '/') :
    stripBlock (body ++ rest) = body.filter (· == '\n') ++ stripBlock rest := by
  induction body with
  | nil => rfl
  | cons c body ih =>
    rw [List.infix_cons_iff, not_or] at h
    have hnext : c = '*' → (body ++ rest).head? ≠ some '/' := by
      rintro rfl
      cases body with
      | nil => exact hrest
      | cons d body => simpa [eq_comm] using h.1
    rw [List.cons_append, stripBlock_cons hnext, ih h.2, ← List.append_assoc, ← List.filter_append]
    rfl

/-- Stripping a text strips its first piece and then the rest. -/
theorem Piece.Before.stripCode_eq (h : p.Before rest) :
    stripCode (p.text ++ rest) = p.kept ++ stripCode rest := by
  cases h with
  | char hquote hopens => exact stripCode_cons hquote hopens
  | string hbody => simp [text, kept, stripCode, stripString_append hbody, stripString]
  | openString hbody => simpa [text, kept, stripCode, stripString] using stripString_append hbody []
  | openEscape hbody => simp [text, kept, stripCode, stripString_append hbody, stripString]
  | @line body _ hbody hrest =>
    have hnone : body.filter (· == '\n') = [] := by
      rw [List.filter_eq_nil_iff]
      rintro c hc heq
      exact hbody (beq_iff_eq.mp heq ▸ hc)
    simpa [text, kept, stripCode, hnone] using stripLine_append hbody hrest
  | block hbody =>
    have hclosing := stripBlock_append hbody ('*' :: '/' :: rest) (by simp)
    simp [text, kept, stripCode, hclosing, stripBlock]
  | openBlock hbody =>
    simpa [text, kept, stripCode, stripBlock] using stripBlock_append hbody [] (by simp)

theorem Reads.stripCode_eq (h : Reads s ps) : stripCode s = ps.flatMap Piece.kept := by
  induction h with
  | nil => simp [stripCode]
  | cons hp _ ih => rw [hp.stripCode_eq, ih, List.flatMap_cons]

/-! ### Every text is read -/

/-- What follows an opening quote is a string literal up to its closing quote or up to the end. -/
theorem exists_inQuotes : ∀ cs, ∃ body, InQuotes body ∧
    ((∃ rest, cs = body ++ '"' :: rest) ∨ cs = body ∨ cs = body ++ ['\\'])
  | [] => ⟨[], .nil, .inr (.inl rfl)⟩
  | c :: cs => by
    by_cases hescape : c = '\\'
    · subst hescape
      match cs with
      | [] => exact ⟨[], .nil, .inr (.inr rfl)⟩
      | c :: cs =>
        obtain ⟨body, hbody, hcs⟩ := exists_inQuotes cs
        refine ⟨'\\' :: c :: body, .escape c hbody, ?_⟩
        simpa using hcs
    · by_cases hquote : c = '"'
      · exact ⟨[], .nil, .inl ⟨cs, by rw [hquote]; rfl⟩⟩
      · obtain ⟨body, hbody, hcs⟩ := exists_inQuotes cs
        refine ⟨c :: body, .char hquote hescape hbody, ?_⟩
        simpa using hcs

/-- What follows `/*` is a comment up to the first `*/` or up to the end. -/
theorem exists_not_infix (cs : List Char) : ∃ body, ¬ ['*', '/'] <:+: body ∧
    ((∃ rest, cs = body ++ '*' :: '/' :: rest) ∨ cs = body) := by
  induction cs with
  | nil => exact ⟨[], by simp, .inr rfl⟩
  | cons c cs ih =>
    by_cases hclose : ['*', '/'] <+: c :: cs
    · obtain ⟨rest, hrest⟩ := hclose
      exact ⟨[], by simp, .inl ⟨rest, hrest.symm⟩⟩
    · obtain ⟨body, hbody, hcs⟩ := ih
      refine ⟨c :: body, ?_, by simpa using hcs⟩
      rw [List.infix_cons_iff, not_or]
      refine ⟨fun hstart => hclose (hstart.trans ?_), hbody⟩
      rcases hcs with ⟨rest, rfl⟩ | rfl <;> simp

theorem exists_before (hs : s ≠ []) :
    ∃ (p : Piece) (rest : List Char), p.Before rest ∧ s = p.text ++ rest := by
  cases s with
  | nil => exact absurd rfl hs
  | cons c cs =>
    by_cases hquote : c = '"'
    · subst hquote
      obtain ⟨body, hbody, ⟨rest, rfl⟩ | rfl | rfl⟩ := exists_inQuotes cs
      · exact ⟨_, rest, .string hbody, by simp [Piece.text]⟩
      · exact ⟨_, [], .openString hbody, by simp [Piece.text]⟩
      · exact ⟨_, [], .openEscape hbody, by simp [Piece.text]⟩
    · cases hopens : opens (c :: cs) with
      | false => exact ⟨.char c, cs, .char hquote hopens, rfl⟩
      | true =>
        obtain ⟨cs, hline | hblock⟩ := opens_eq_true_iff.mp hopens
        · refine ⟨.line ('/' :: '/' :: cs.takeWhile (· != '\n')), cs.dropWhile (· != '\n'), ?_, ?_⟩
          · refine .line (fun hmem => ?_) (fun c hc => ?_)
            · simpa using List.mem_takeWhile_imp hmem
            · have hstop := List.head?_dropWhile_not (· != '\n') cs
              rw [Option.mem_def.mp hc] at hstop
              simpa using hstop
          · simp [hline, Piece.text]
        · obtain ⟨body, hbody, ⟨rest, rfl⟩ | rfl⟩ := exists_not_infix cs
          · exact ⟨_, rest, .block hbody, by simp [hblock, Piece.text]⟩
          · exact ⟨_, [], .openBlock hbody, by simp [hblock, Piece.text]⟩

theorem exists_reads (s : List Char) : ∃ ps, Reads s ps := by
  induction hlength : s.length using Nat.strong_induction_on generalizing s with
  | _ n ih =>
    by_cases hs : s = []
    · exact ⟨[], hs ▸ .nil⟩
    · obtain ⟨p, rest, hp, rfl⟩ := exists_before hs
      have hlt : rest.length < n := by
        rw [← hlength, List.length_append]
        exact Nat.lt_add_of_pos_left hp.length_pos
      obtain ⟨ps, hps⟩ := ih rest.length hlt rest rfl
      exact ⟨p :: ps, .cons hp hps⟩

/-! ### Lines -/

/-- The first text is the second one without some characters, none of which is a line break. -/
inductive Thins : List Char → List Char → Prop where
  | nil : Thins [] []
  | keep (c : Char) {s t : List Char} : Thins s t → Thins (c :: s) (c :: t)
  | drop {c : Char} {s t : List Char} : c ≠ '\n' → Thins s t → Thins s (c :: t)

namespace Thins

theorem append_left (l : List Char) (h : Thins s t) : Thins (l ++ s) (l ++ t) := by
  induction l with
  | nil => exact h
  | cons c l ih => exact .keep c ih

theorem append_filter (l : List Char) (h : Thins s t) :
    Thins (l.filter (· == '\n') ++ s) (l ++ t) := by
  induction l with
  | nil => exact h
  | cons c l ih =>
    by_cases hc : c = '\n'
    · simpa [hc] using ih.keep '\n'
    · simpa [hc] using ih.drop hc

theorem count_eq (h : Thins s t) : s.count '\n' = t.count '\n' := by
  induction h with
  | nil => rfl
  | keep c _ ih => rw [List.count_cons, List.count_cons, ih]
  | drop hc _ ih => rw [List.count_cons_of_ne hc, ih]

theorem cons_lines (c : Char) {xs ys : List (List Char)} (h : List.Forall₂ List.Sublist xs ys) :
    List.Forall₂ List.Sublist (xs.modifyHead (List.cons c)) (ys.modifyHead (List.cons c)) := by
  cases h with
  | nil => exact .nil
  | cons hline hlines => exact .cons (hline.cons_cons c) hlines

theorem lines_cons (c : Char) {xs ys : List (List Char)} (h : List.Forall₂ List.Sublist xs ys) :
    List.Forall₂ List.Sublist xs (ys.modifyHead (List.cons c)) := by
  cases h with
  | nil => exact .nil
  | cons hline hlines => exact .cons (hline.cons c) hlines

/-- Each line is a subsequence of the line with the same number. -/
theorem lines (h : Thins s t) :
    List.Forall₂ List.Sublist (s.splitOn '\n') (t.splitOn '\n') := by
  unfold List.splitOn
  induction h with
  | nil => simp [List.splitOnP_nil]
  | keep c _ ih =>
    rw [List.splitOnP_cons_eq_if_modifyHead, List.splitOnP_cons_eq_if_modifyHead]
    split
    · exact .cons (.refl []) ih
    · exact cons_lines c ih
  | @drop c _ _ hc _ ih =>
    rw [List.splitOnP_cons_eq_if_modifyHead, if_neg (by simpa using hc)]
    exact lines_cons c ih

end Thins

theorem Piece.Before.thins (h : p.Before rest) (hst : Thins s t) :
    Thins (p.kept ++ s) (p.text ++ t) := by
  cases p with
  | char c => exact hst.keep c
  | string text => exact hst.append_left text
  | line text | block text => exact hst.append_filter text

theorem Reads.thins (h : Reads s ps) : Thins (stripCode s) s := by
  induction h with
  | nil => simpa [stripCode] using Thins.nil
  | cons hp _ ih =>
    rw [hp.stripCode_eq]
    exact hp.thins ih

/-! ### Stripping twice -/

theorem head?_stripCode (h : opens s = false) : (stripCode s).head? = s.head? := by
  cases s with
  | nil => simp [stripCode]
  | cons c cs =>
    by_cases hquote : c = '"'
    · simp [hquote, stripCode]
    · simp [stripCode_cons hquote h]

/-- A slash that is kept is followed by the same character as before, so that it opens no
comment. -/
theorem opens_cons_stripCode (h : opens (c :: rest) = false) :
    opens (c :: stripCode rest) = false := by
  rw [← Bool.not_eq_true, opens_cons_iff] at h ⊢
  rintro ⟨rfl, hhead⟩
  apply h
  refine ⟨rfl, ?_⟩
  cases hrest : opens rest with
  | false => rwa [head?_stripCode hrest] at hhead
  | true =>
    obtain ⟨cs, rfl | rfl⟩ := opens_eq_true_iff.mp hrest <;> exact .inl rfl

/-- Line breaks before a text are pieces of their own. -/
theorem Reads.lineBreaks (l : List Char) {qs : List Piece} (h : Reads s qs) :
    Reads (l.filter (· == '\n') ++ s) ((l.filter (· == '\n')).map .char ++ qs) := by
  induction l with
  | nil => exact h
  | cons c l ih =>
    by_cases hc : c = '\n'
    · subst hc
      exact .cons (.char (by decide) rfl) ih
    · simpa [hc] using ih

/-- The stripped text is read without comments. -/
theorem Reads.exists_stripped (h : Reads s ps) :
    ∃ qs, Reads (stripCode s) qs ∧ ∀ q ∈ qs, q.isComment = false := by
  induction h with
  | nil => exact ⟨[], by simpa [stripCode] using Reads.nil, nofun⟩
  | @cons p rest ps hp _ ih =>
    obtain ⟨qs, hqs, hplain⟩ := ih
    rw [hp.stripCode_eq]
    cases p with
    | char c =>
      cases hp with
      | char hquote hopens =>
        refine ⟨.char c :: qs, .cons (.char hquote (opens_cons_stripCode hopens)) hqs, ?_⟩
        simpa [Piece.isComment] using hplain
    | string text =>
      refine ⟨.string text :: qs, .cons (p := .string text) ?_ hqs, ?_⟩
      swap
      · simpa [Piece.isComment] using hplain
      cases hp with
      | string hbody => exact .string hbody
      | openString hbody => simpa [stripCode] using Piece.Before.openString hbody
      | openEscape hbody => simpa [stripCode] using Piece.Before.openEscape hbody
    | line text | block text =>
      refine ⟨_, hqs.lineBreaks text, ?_⟩
      intro q hq
      rcases List.mem_append.mp hq with hq | hq
      · obtain ⟨c, -, rfl⟩ := List.mem_map.mp hq
        rfl
      · exact hplain q hq

/-- A text without comments stays as it is. -/
theorem Reads.stripCode_eq_self (h : Reads s ps) (hplain : ∀ p ∈ ps, p.isComment = false) :
    stripCode s = s := by
  rw [h.stripCode_eq]
  conv_rhs => rw [h.text_eq]
  apply List.flatMap_congr
  intro p hp
  cases p with
  | char c | string text => rfl
  | line text | block text => cases hplain _ hp

theorem stripCode_stripCode (s : List Char) : stripCode (stripCode s) = stripCode s := by
  obtain ⟨ps, hps⟩ := exists_reads s
  obtain ⟨qs, hqs, hplain⟩ := hps.exists_stripped
  exact hqs.stripCode_eq_self hplain

/-! ### Texts without openers -/

theorem not_hasOpener_nil : ¬ HasOpener [] := by
  rintro ⟨before, after, heq, -, hopens⟩
  obtain ⟨-, rfl⟩ := List.append_eq_nil_iff.mp heq.symm
  cases hopens

/-- A comment begins with an opener. -/
theorem Piece.Before.opens_eq_true (h : p.Before rest) (hp : p.isComment = true) (t : List Char) :
    opens (p.text ++ t) = true := by
  cases h with
  | char | string | openString | openEscape => cases hp
  | line | block | openBlock => rfl

/-- An opener that stands behind a piece stands in the text with this piece in front. -/
theorem Piece.Before.hasOpener (h : p.Before rest) (hp : p.isComment = false)
    (hrest : HasOpener rest) : HasOpener (p.text ++ rest) := by
  cases h with
  | char hquote =>
    obtain ⟨before, after, rfl, hbefore, hopens⟩ := hrest
    exact ⟨_ :: before, after, rfl, .char hquote hbefore, hopens⟩
  | string hbody =>
    obtain ⟨before, after, rfl, hbefore, hopens⟩ := hrest
    exact ⟨_, after, by simp [text], .string hbody hbefore, hopens⟩
  | openString | openEscape => exact absurd hrest not_hasOpener_nil
  | line | block | openBlock => cases hp

theorem Reads.isComment_eq_false (h : Reads s ps) (hs : ¬ HasOpener s) :
    ∀ p ∈ ps, p.isComment = false := by
  induction h with
  | nil => nofun
  | @cons p rest ps hp _ ih =>
    have hfirst : p.isComment = false := by
      by_contra hcomment
      rw [Bool.not_eq_false] at hcomment
      exact hs ⟨[], _, rfl, .nil, hp.opens_eq_true hcomment rest⟩
    rw [List.forall_mem_cons]
    exact ⟨hfirst, ih fun hrest => hs (hp.hasOpener hfirst hrest)⟩

/-- Stripping a text twice is stripping it once. The line breaks of the text stay, and each line
becomes a subsequence of itself. The text is read as a sequence of pieces, whose characters and
string literals are kept as they are. If no comment opens outside of the string literals, then the
text stays as it is. -/
theorem strip_removes_comments (s : String) :
    strip (strip s) = strip s ∧
    (strip s).toList.count '\n' = s.toList.count '\n' ∧
    List.Forall₂ List.Sublist ((strip s).toList.splitOn '\n') (s.toList.splitOn '\n') ∧
    (∃ ps, Reads s.toList ps) ∧
    (∀ ps, Reads s.toList ps → (strip s).toList = ps.flatMap Piece.kept) ∧
    (¬ HasOpener s.toList → strip s = s) := by
  have hlist : (strip s).toList = stripCode s.toList := String.toList_ofList
  obtain ⟨ps, hps⟩ := exists_reads s.toList
  refine ⟨?_, ?_, ?_, ⟨ps, hps⟩, ?_, ?_⟩
  · apply String.toList_inj.mp
    rw [strip, String.toList_ofList, hlist, stripCode_stripCode]
  · rw [hlist, hps.thins.count_eq]
  · rw [hlist]
    exact hps.thins.lines
  · intro qs hqs
    rw [hlist, hqs.stripCode_eq]
  · intro hs
    apply String.toList_inj.mp
    rw [hlist, hps.stripCode_eq_self (hps.isComment_eq_false hs)]

example : strip "a / \"//\" /* b\n */ c // d" = "a / \"//\" \n c " := by decide

end TypeGuard.Comment
