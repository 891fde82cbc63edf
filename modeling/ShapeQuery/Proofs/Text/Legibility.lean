import Mathlib.Data.List.TakeWhile
import ShapeQuery.Text.Join
import ShapeQuery.Text.Quoted

/-!
# Where a text ends

A text inside a longer one is *legible* if it can be seen where it ends and what it is
(`Text.Legible`): whatever other text of its family is read at the same place, it is the same one,
and the same remains. This is a stronger property than to be told apart from all other texts that
stand alone, and the one that an induction on nested texts needs.

* A word is legible before a mark that does not occur in words (`Text.words_append_inj`).
* Quoted text is legible before anything (`Text.quoted_append_inj`). The codes of its characters can
  be read one by one (`Text.readCode_escape`), and none of them starts with the quotation mark that
  ends the text.
* A list of legible texts is legible before a mark that is not the one with which the separator
  starts (`Text.joined_append_inj`).
-/

namespace ShapeQuery

namespace Text

variable {α : Type} {marks : List Char} {s t r r' : List Char}

/-! ### Words and marks -/

/-- The rest of a text is at a mark if it is empty or goes on with one of the marks. -/
def AtMark (marks rest : List Char) : Prop := ∀ c ∈ rest.head?, c ∈ marks

theorem AtMark.nil : AtMark marks [] := fun _ h ↦ (nomatch h)

theorem AtMark.cons {c : Char} (h : c ∈ marks) : AtMark marks (c :: r) := by
  intro d hd
  exact Option.some.inj hd ▸ h

/-- What comes before the first mark is a word. -/
theorem takeWhile_of_atMark (hs : ∀ c ∈ s, c ∉ marks) (hr : AtMark marks r) :
    (s ++ r).takeWhile (fun c ↦ !marks.contains c) = s := by
  rw [List.takeWhile_append_of_pos (by simpa using hs)]
  cases r with
  | nil => exact List.append_nil s
  | cons c r =>
    rw [List.takeWhile_cons_of_neg (by simpa using hr c rfl), List.append_nil]

/-- Words without marks in them end at the first mark. -/
theorem words_append_inj (hs : ∀ c ∈ s, c ∉ marks) (ht : ∀ c ∈ t, c ∉ marks)
    (hr : AtMark marks r) (hr' : AtMark marks r') (h : s ++ r = t ++ r') : s = t ∧ r = r' := by
  have hst : s = t := by
    rw [← takeWhile_of_atMark hs hr, h, takeWhile_of_atMark ht hr']
  subst hst
  exact ⟨rfl, List.append_cancel_left h⟩

/-- A word that is not empty does not start with a mark. -/
theorem word_append_ne {c : Char} (hs : ∀ d ∈ s, d ∉ marks) (hne : s ≠ []) (hc : c ∈ marks) :
    s ++ r ≠ c :: r' := by
  intro h
  cases s with
  | nil => exact hne rfl
  | cons d s => exact hs d List.mem_cons_self ((List.cons.inj h).1 ▸ hc)

/-- The text of `a` is legible before the marks: where it stands in front of one of them, no other
text of the family can be read. -/
def Legible (marks : List Char) (f : α → String) (a : α) : Prop :=
  ∀ b r r', AtMark marks r → AtMark marks r' → (f a).toList ++ r = (f b).toList ++ r' →
    a = b ∧ r = r'

/-- Words that differ are legible before marks that do not occur in them. -/
theorem legible_of_words {f : α → String} (hf : Function.Injective f)
    (hwords : ∀ a, ∀ c ∈ (f a).toList, c ∉ marks) (a : α) : Legible marks f a := by
  intro b r r' hr hr' h
  obtain ⟨hab, hrest⟩ := words_append_inj (hwords a) (hwords b) hr hr' h
  exact ⟨hf (String.toList_injective hab), hrest⟩

/-! ### Quoted text -/

/-- The number that some hexadecimal digits stand for. -/
def hexNumber (digits : List Char) : Nat :=
  digits.foldl (fun n c ↦ 16 * n + ((List.range 16).map Nat.digitChar).idxOf c) 0

theorem idxOf_digitChar :
    ∀ d < 16, ((List.range 16).map Nat.digitChar).idxOf (Nat.digitChar d) = d := by decide

theorem hexNumber_toDigits (n : Nat) : hexNumber (Nat.toDigits 16 n) = n := by
  induction n using Nat.strongRecOn with
  | ind n ih =>
    rw [Nat.toDigits_eq_if (by decide)]
    split
    case isTrue hlt => exact (Nat.zero_add _).trans (idxOf_digitChar n hlt)
    case isFalse hge =>
      have hhigh := ih (n / 16) (by omega)
      rw [hexNumber] at hhigh
      rw [hexNumber, List.foldl_append, hhigh, List.foldl_cons, List.foldl_nil,
        idxOf_digitChar _ (Nat.mod_lt n (by decide)), Nat.div_add_mod]

/-- The brace that ends a code point is not a digit. -/
theorem brace_notMem_toDigits (n : Nat) : '\x7d' ∉ Nat.toDigits 16 n := by
  induction n using Nat.strongRecOn with
  | ind n ih =>
    have hdigit : ∀ d, '\x7d' ≠ Nat.digitChar d := fun d ↦ (Nat.digitChar_ne _ (by decide)).symm
    rw [Nat.toDigits_eq_if (by decide)]
    split
    case isTrue => exact mt List.mem_singleton.1 (hdigit n)
    case isFalse =>
      refine mt List.mem_append.1 (not_or.2 ⟨ih (n / 16) (by omega), ?_⟩)
      exact mt List.mem_singleton.1 (hdigit _)

/-- Reads one character of quoted text and gives the rest. -/
def readCode : List Char → Option (Char × List Char)
  | '\\' :: 'u' :: rest =>
    some (Char.ofNat (hexNumber (rest.tail.takeWhile (· ≠ '\x7d'))),
      (rest.dropWhile (· ≠ '\x7d')).tail)
  | '\\' :: 't' :: rest => some ('\t', rest)
  | '\\' :: 'n' :: rest => some ('\n', rest)
  | '\\' :: 'r' :: rest => some ('\r', rest)
  | '\\' :: '0' :: rest => some ('\x00', rest)
  | '\\' :: c :: rest => some (c, rest)
  | c :: rest => some (c, rest)
  | [] => none

/-- A character of quoted text is read from its code. -/
theorem readCode_escape (c : Char) (rest : List Char) :
    readCode (escape c ++ rest) = some (c, rest) := by
  rw [escape]
  -- the characters with a code of two characters
  iterate 6
    split
    · subst c; rfl
  split
  case isTrue hbackslash _ _ _ _ _ => simp [readCode, hbackslash]
  case isFalse =>
    have hdigits : ∀ d ∈ Nat.toDigits 16 c.toNat, decide (d ≠ '\x7d') = true := fun d hd ↦
      decide_eq_true fun hbrace ↦ brace_notMem_toDigits c.toNat (hbrace ▸ hd)
    have htake : (Nat.toDigits 16 c.toNat ++ '\x7d' :: rest).takeWhile (· ≠ '\x7d') =
        Nat.toDigits 16 c.toNat := by
      rw [List.takeWhile_append_of_pos hdigits]
      exact List.append_nil _
    have hdrop : (Nat.toDigits 16 c.toNat ++ '\x7d' :: rest).dropWhile (· ≠ '\x7d') =
        '\x7d' :: rest := by
      rw [List.dropWhile_append_of_pos hdigits]
      rfl
    simp only [List.cons_append, List.append_assoc, List.nil_append, readCode, List.tail_cons,
      htake, hexNumber_toDigits, Char.ofNat_toNat]
    rw [List.dropWhile_cons_of_pos (by decide), hdrop, List.tail_cons]

theorem escape_append_inj {c d : Char} (h : escape c ++ r = escape d ++ r') :
    c = d ∧ r = r' := by
  have hread := readCode_escape c r
  rw [h, readCode_escape] at hread
  exact ⟨(Prod.mk.inj (Option.some.inj hread)).1.symm, (Prod.mk.inj (Option.some.inj hread)).2.symm⟩

/-- No code starts with the quotation mark that ends quoted text. -/
theorem escape_append_ne_quote (c : Char) : escape c ++ r ≠ '"' :: r' := by
  intro h
  have hread := readCode_escape c r
  rw [h] at hread
  obtain rfl : '"' = c := (Prod.mk.inj (Option.some.inj hread)).1
  exact absurd (List.cons.inj h).1 (by decide)

theorem escaped_append_inj {s t : List Char}
    (h : s.flatMap escape ++ '"' :: r = t.flatMap escape ++ '"' :: r') : s = t ∧ r = r' := by
  induction s generalizing t with
  | nil =>
    cases t with
    | nil => exact ⟨rfl, (List.cons.inj h).2⟩
    | cons d t =>
      rw [List.flatMap_cons, List.append_assoc] at h
      exact absurd h.symm (escape_append_ne_quote d)
  | cons c s ih =>
    cases t with
    | nil =>
      rw [List.flatMap_cons, List.append_assoc] at h
      exact absurd h (escape_append_ne_quote c)
    | cons d t =>
      rw [List.flatMap_cons, List.flatMap_cons, List.append_assoc, List.append_assoc] at h
      obtain ⟨rfl, hrest⟩ := escape_append_inj h
      obtain ⟨rfl, rfl⟩ := ih hrest
      exact ⟨rfl, rfl⟩

/-- Quoted text ends at its closing quotation mark, whatever stands in it and after it. -/
theorem quoted_append_inj {name name' : String}
    (h : (quoted name).toList ++ r = (quoted name').toList ++ r') : name = name' ∧ r = r' := by
  simp only [quoted, String.toList_ofList, List.cons_append, List.append_assoc,
    List.nil_append, List.cons.injEq, true_and] at h
  obtain ⟨hname, hrest⟩ := escaped_append_inj h
  exact ⟨String.toList_injective hname, hrest⟩

/-! ### Lists of texts -/

section Lists

variable {f : α → String} {separator : String} {mark close : Char} {gap : List Char}

theorem atMark_separated (hseparator : separator.toList = mark :: gap) (hmark : mark ∈ marks)
    (hclose : close ∈ marks) (texts : List String) :
    AtMark marks ((separated separator texts).toList ++ close :: r) := by
  cases texts with
  | nil => exact .cons hclose
  | cons text texts =>
    rw [separated, String.toList_append, String.toList_append, hseparator]
    exact .cons hmark

/-- After a text of a list comes the separator or what ends the list, and these differ. -/
theorem separated_append_inj (hseparator : separator.toList = mark :: gap) (hmark : mark ∈ marks)
    (hclose : close ∈ marks) (hne : mark ≠ close) {xs ys : List α}
    (hxs : ∀ x ∈ xs, Legible marks f x)
    (h : (separated separator (xs.map f)).toList ++ close :: r =
      (separated separator (ys.map f)).toList ++ close :: r') : xs = ys ∧ r = r' := by
  have hcons : ∀ x xs (rest : List Char),
      (separated separator ((x :: xs).map f)).toList ++ rest =
        mark :: (gap ++ ((f x).toList ++ ((separated separator (xs.map f)).toList ++ rest))) := by
    intro x xs rest
    simp only [List.map_cons, separated, String.toList_append, hseparator, List.cons_append,
      List.append_assoc]
  induction xs generalizing ys with
  | nil =>
    cases ys with
    | nil => exact ⟨rfl, (List.cons.inj h).2⟩
    | cons y ys =>
      rw [hcons] at h
      exact absurd (List.cons.inj h).1.symm hne
  | cons x xs ih =>
    cases ys with
    | nil =>
      rw [hcons] at h
      exact absurd (List.cons.inj h).1 hne
    | cons y ys =>
      obtain ⟨hx, hxs⟩ := List.forall_mem_cons.1 hxs
      rw [hcons, hcons] at h
      obtain ⟨rfl, hrest⟩ := hx y _ _ (atMark_separated hseparator hmark hclose _)
        (atMark_separated hseparator hmark hclose _)
        (List.append_cancel_left (List.cons.inj h).2)
      obtain ⟨rfl, rfl⟩ := ih hxs hrest
      exact ⟨rfl, rfl⟩

/-- A list of legible texts can be taken apart if none of them starts with what ends the list. -/
theorem joined_append_inj (hseparator : separator.toList = mark :: gap) (hmark : mark ∈ marks)
    (hclose : close ∈ marks) (hne : mark ≠ close)
    (hfirst : ∀ a rest rest', (f a).toList ++ rest ≠ close :: rest') {xs ys : List α}
    (hxs : ∀ x ∈ xs, Legible marks f x)
    (h : (joined separator (xs.map f)).toList ++ close :: r =
      (joined separator (ys.map f)).toList ++ close :: r') : xs = ys ∧ r = r' := by
  cases xs with
  | nil =>
    cases ys with
    | nil => exact ⟨rfl, (List.cons.inj h).2⟩
    | cons y ys =>
      rw [List.map_cons, joined, String.toList_append, List.append_assoc] at h
      exact absurd h.symm (hfirst y _ _)
  | cons x xs =>
    obtain ⟨hx, hxs⟩ := List.forall_mem_cons.1 hxs
    rw [List.map_cons, joined, String.toList_append, List.append_assoc] at h
    cases ys with
    | nil => exact absurd h (hfirst x _ _)
    | cons y ys =>
      rw [List.map_cons, joined, String.toList_append, List.append_assoc] at h
      obtain ⟨rfl, hrest⟩ := hx y _ _ (atMark_separated hseparator hmark hclose _)
        (atMark_separated hseparator hmark hclose _) h
      obtain ⟨rfl, rfl⟩ := separated_append_inj hseparator hmark hclose hne hxs hrest
      exact ⟨rfl, rfl⟩

end Lists

end Text

end ShapeQuery
