import Mathlib.Data.List.Forall2
import ShapeQuery.Proofs.Json.Members
import ShapeQuery.Proofs.Json.NumberText

/-!
# Reading text back

The text of a value is read as the value, in whichever layout it is written, if the members of its
objects are in order (`Json.parse?_compact`, `Json.parse?_pretty`). So values with the same text are
the same.

The stages of the reader are treated apart. Between them stand the tokens of the value, which are
defined on the value alone (`Json.tokens`): white space is gone, and strings and numbers are as they
were before they were written.

* The text of a value is cut into these tokens (`Lexer.spells_render`). A text is put together from
  pieces, and so are its tokens. After most pieces the reader is between two tokens, whatever comes
  next (`Lexer.Closes`); a number or a word, however, ends only with the character after it
  (`Lexer.Spells`), which is why that character has to be one that no word goes on with.
* The tokens of a value are put together to the value wherever a value can stand
  (`Builder.rebuilds_of_ordered`).
-/

namespace ShapeQuery

namespace Json

/-! ### Induction on values -/

/-- Induction on a value, where the parts of an array or object are given by membership. -/
@[elab_as_elim]
theorem values_induction {P : Json → Prop} (null : P .null) (bool : ∀ b, P (.bool b))
    (number : ∀ n, P (.number n)) (string : ∀ s, P (.string s))
    (array : ∀ items, (∀ v ∈ items, P v) → P (.array items))
    (object : ∀ members : List (String × Json), (∀ m ∈ members, P m.2) → P (.object members))
    (v : Json) : P v :=
  @Json.rec P (fun items ↦ ∀ v ∈ items, P v) (fun members ↦ ∀ m ∈ members, P m.2) (fun m ↦ P m.2)
    null bool number string array object
    (fun _ hv ↦ nomatch hv) (fun _ _ hv hrest ↦ List.forall_mem_cons.2 ⟨hv, hrest⟩)
    (fun _ hm ↦ nomatch hm) (fun _ _ hm hrest ↦ List.forall_mem_cons.2 ⟨hm, hrest⟩)
    (fun _ _ hv ↦ hv) v

/-! ### Tokens of a value -/

/-- The tokens of the elements of a container between its brackets, separated by commas. -/
def Token.enclose (left right : Token) : List (List Token) → List Token
  | [] => [left, right]
  | first :: rest => left :: (first ++ rest.flatMap (comma :: ·) ++ [right])

mutual

/-- The tokens of a value. -/
def tokens : Json → List Token
  | null => [.scalar .null]
  | bool b => [.scalar (.bool b)]
  | number n => [.scalar (.number n)]
  | string s => [.text s]
  | array items => Token.enclose .leftBracket .rightBracket (itemTokens items)
  | object members => Token.enclose .leftBrace .rightBrace (memberTokens members)

/-- The tokens of the items of an array. -/
def itemTokens : List Json → List (List Token)
  | [] => []
  | v :: rest => tokens v :: itemTokens rest

/-- The tokens of the members of an object. -/
def memberTokens : List (String × Json) → List (List Token)
  | [] => []
  | (key, v) :: rest => (.text key :: .colon :: tokens v) :: memberTokens rest

end

/-! ### Cutting text into tokens -/

namespace Lexer

/-- The characters that no number or word goes on with. -/
def endsWord (c : Char) : Bool := isBlank c || c == '"' || (punctuation? c).isSome

/-- These tokens have been read, the last one first, though it may take one more character to see
that the last one has ended. -/
inductive Settled : List Token → Lexer → Prop
  | between (read : List Token) : Settled read ⟨read, .none⟩
  | word {read : List Token} {chars : List Char} {token : Token}
      (h : wordToken? chars.reverse = some token) : Settled (token :: read) ⟨read, .word chars⟩

section Settled

variable {read : List Token} {s : Lexer}

theorem Settled.step_eq (h : Settled read s) {c : Char} (hc : endsWord c = true) :
    s.step c = step ⟨read, .none⟩ c := by
  cases h with
  | between => rfl
  | word htoken =>
    show (if endsWord c then _ else _) = _
    rw [if_pos hc, htoken]
    rfl

theorem Settled.finish_eq (h : Settled read s) : s.finish = some read.reverse := by
  cases h with
  | between => rfl
  | word htoken =>
    simp only [finish, htoken]
    rfl

end Settled

/-- Read from between two tokens, the text consists of these tokens, though the last one may not
have ended yet. -/
def Spells (text : List Char) (tokens : List Token) : Prop :=
  ∀ read, ∃ s, text.foldlM step ⟨read, .none⟩ = some s ∧ Settled (tokens.reverse ++ read) s

/-- Read from between two tokens, the text consists of these tokens, and is between two tokens
again. -/
def Closes (text : List Char) (tokens : List Token) : Prop :=
  ∀ read, text.foldlM step ⟨read, .none⟩ = some ⟨tokens.reverse ++ read, .none⟩

/-- The text starts with a character that no word goes on with. -/
def Ends (text : List Char) : Prop := ∃ c rest, text = c :: rest ∧ endsWord c = true

section Pieces

variable {a b : List Char} {ts us : List Token}

theorem Closes.spells (h : Closes a ts) : Spells a ts := fun read ↦
  ⟨_, h read, .between _⟩

theorem Closes.append_spells (ha : Closes a ts) (hb : Spells b us) :
    Spells (a ++ b) (ts ++ us) := by
  intro read
  obtain ⟨s, hs, hsettled⟩ := hb (ts.reverse ++ read)
  refine ⟨s, ?_, ?_⟩
  · rw [List.foldlM_append, ha]
    exact hs
  · rwa [List.reverse_append, List.append_assoc]

theorem Closes.append (ha : Closes a ts) (hb : Closes b us) : Closes (a ++ b) (ts ++ us) := by
  intro read
  rw [List.foldlM_append, ha, List.reverse_append, List.append_assoc]
  exact hb _

/-- A word is over when something follows that it does not go on with. -/
theorem Spells.append (ha : Spells a ts) (hb : Closes b us) (hends : Ends b) :
    Closes (a ++ b) (ts ++ us) := by
  intro read
  obtain ⟨s, hs, hsettled⟩ := ha read
  obtain ⟨c, rest, rfl, hc⟩ := hends
  have hnext := hb (ts.reverse ++ read)
  rw [List.foldlM_cons] at hnext
  rw [List.foldlM_append, hs, List.reverse_append, List.append_assoc, ← hnext]
  show (c :: rest).foldlM step s = _
  rw [List.foldlM_cons, hsettled.step_eq hc]

theorem closes_blank {blanks : List Char} (h : ∀ c ∈ blanks, isBlank c = true) :
    Closes blanks [] := by
  intro read
  induction blanks with
  | nil => rfl
  | cons c rest ih =>
    obtain ⟨hc, hrest⟩ := List.forall_mem_cons.1 h
    have hstep : step ⟨read, .none⟩ c = some ⟨read, .none⟩ := congrArg some (if_pos hc)
    rw [List.foldlM_cons, hstep]
    exact ih hrest

/-- A text without blanks, quotation marks and punctuation is a word. -/
theorem spells_word {word : List Char} {token : Token} (hne : word ≠ [])
    (hword : word.any endsWord = false) (htoken : wordToken? word = some token) :
    Spells word [token] := by
  have hgoesOn : ∀ (read : List Token) (rest chars : List Char), rest.any endsWord = false →
      rest.foldlM step ⟨read, .word chars⟩ = some ⟨read, .word (rest.reverse ++ chars)⟩ := by
    intro read rest
    induction rest with
    | nil => exact fun _ _ ↦ rfl
    | cons c rest ih =>
      intro chars hrest
      obtain ⟨hc, hrest⟩ := Bool.or_eq_false_iff.1 hrest
      have hstep : step ⟨read, .word chars⟩ c = some ⟨read, .word (c :: chars)⟩ :=
        if_neg (Bool.eq_false_iff.1 hc)
      rw [List.foldlM_cons, hstep, List.reverse_cons, List.append_assoc]
      exact ih _ hrest
  intro read
  cases word with
  | nil => exact absurd rfl hne
  | cons c rest =>
    obtain ⟨hc, hrest⟩ := Bool.or_eq_false_iff.1 hword
    have hstart : step ⟨read, .none⟩ c = some ⟨read, .word [c]⟩ := by
      simp only [endsWord, Bool.or_eq_false_iff, Option.isSome_eq_false_iff,
        Option.isNone_iff_eq_none] at hc
      obtain ⟨⟨hblank, hquote⟩, hpunctuation⟩ := hc
      simp [step, start, hblank, beq_eq_false_iff_ne.1 hquote, hpunctuation]
    refine ⟨⟨read, .word (rest.reverse ++ [c])⟩, ?_, ?_⟩
    · rw [List.foldlM_cons, hstart]
      exact hgoesOn _ _ _ hrest
    · refine .word ?_
      rwa [List.reverse_append, List.reverse_reverse]

end Pieces

/-! ### Strings -/

theorem hexValue?_digitChar : ∀ d < 16, hexValue? (Nat.digitChar d) = some d := by decide

/-- A character in a string is read from what it is written as. -/
theorem foldlM_escape (c : Char) (read : List Token) (chars : List Char) :
    (escape c).foldlM step ⟨read, .text chars⟩ = some ⟨read, .text (c :: chars)⟩ := by
  rw [escape]
  -- the characters that are escaped by a letter
  iterate 7
    split
    · subst c; rfl
  split
  case isTrue hcontrol =>
    have hlt : c.toNat < 32 := hcontrol
    have hhigh := hexValue?_digitChar (c.toNat / 16) (by omega)
    have hlow := hexValue?_digitChar (c.toNat % 16) (by omega)
    have hunit : escapedUnit? chars none (16 * (c.toNat / 16) + c.toNat % 16) =
        some (.text (c :: chars)) := by
      rw [Nat.div_add_mod, escapedUnit?, if_neg (by omega), if_neg (by omega), Char.ofNat_toNat]
    have hzero : hexValue? '0' = some 0 := rfl
    simp [step, hzero, hhigh, hlow, hunit]
  case isFalse hquote hbackslash _ _ _ _ _ hplain =>
    show step ⟨read, .text chars⟩ c >>= pure = _
    simp [step, hquote, hbackslash, hplain]

theorem closes_quote (s : String) : Closes (quote s) [.text s] := by
  intro read
  have hchars : ∀ cs chars : List Char, (cs.flatMap escape).foldlM step ⟨read, .text chars⟩ =
      some ⟨read, .text (cs.reverse ++ chars)⟩ := by
    intro cs
    induction cs with
    | nil => exact fun _ ↦ rfl
    | cons c cs ih =>
      intro chars
      rw [List.flatMap_cons, List.foldlM_append, foldlM_escape, List.reverse_cons,
        List.append_assoc]
      exact ih _
  have hopen : step ⟨read, .none⟩ '"' = some ⟨read, .text []⟩ := rfl
  rw [quote, List.foldlM_cons, hopen]
  show (s.toList.flatMap escape ++ ['"']).foldlM step ⟨read, .text []⟩ = _
  rw [List.foldlM_append, hchars]
  show some (Lexer.mk (.text (String.ofList (s.toList.reverse ++ []).reverse) :: read) .none) = _
  rw [List.append_nil, List.reverse_reverse, String.ofList_toList]
  rfl

/-! ### Numbers and words -/

theorem endsWord_of_isNumeric {c : Char} (h : isNumeric c = true) : endsWord c = false := by
  cases hends : endsWord c with
  | false => rfl
  | true =>
    rw [endsWord, Bool.or_eq_true] at hends
    rcases hends with hends | hpunctuation
    · simp only [isBlank, Bool.or_eq_true, beq_iff_eq] at hends
      rcases hends with (((rfl | rfl) | rfl) | rfl) | rfl <;> cases h
    · rw [punctuation?.eq_def] at hpunctuation
      split at hpunctuation
      case h_7 => cases hpunctuation
      all_goals cases h

theorem wordToken?_number (n : Number) : wordToken? n.text = some (.scalar (.number n)) := by
  have hread := number?_text n
  rw [wordToken?, hread]
  -- none of the three words is a number
  iterate 3
    split
    case isTrue h => rw [h] at hread; cases hread
  rfl

theorem spells_number (n : Number) : Spells n.text [.scalar (.number n)] := by
  refine spells_word ?_ (List.any_eq_false.2 fun c hc ↦ ?_) (wordToken?_number n)
  · intro hnil
    have hread := number?_text n
    rw [hnil] at hread
    cases hread
  · rw [endsWord_of_isNumeric (List.all_eq_true.1 (all_isNumeric_text n) c hc)]
    exact Bool.false_ne_true

end Lexer

/-! ### Layouts -/

/-- All white space of the layout is blanks, and there is a colon after a key. -/
structure Layout.IsBlank (layout : Layout) : Prop where
  lineBreak : ∀ depth, ∀ c ∈ layout.lineBreak depth, Lexer.isBlank c = true
  colon : ∃ blanks, layout.colon = ':' :: blanks ∧ ∀ c ∈ blanks, Lexer.isBlank c = true

theorem Layout.isBlank_compact : Layout.compact.IsBlank where
  lineBreak _ _ hc := nomatch hc
  colon := ⟨[], rfl, fun _ hc ↦ nomatch hc⟩

theorem Layout.isBlank_indented : Layout.indented.IsBlank where
  lineBreak depth c hc := by
    rcases List.mem_cons.1 hc with rfl | hc
    · rfl
    · rw [List.eq_of_mem_replicate hc]
      rfl
  colon := ⟨[' '], rfl, List.forall_mem_singleton.2 rfl⟩

namespace Lexer

section Layouts

variable {layout : Layout} (hblank : layout.IsBlank)

include hblank

/-- The rest of a container, after its first element. -/
theorem closes_separated (depth inner : Nat) {right : Char} {last : Token}
    (hright : Closes [right] [last]) (hends : endsWord right = true) {texts : List (List Char)}
    {tokens : List (List Token)} (h : List.Forall₂ Spells texts tokens) :
    let text := texts.flatMap (fun element ↦ ',' :: (layout.lineBreak inner ++ element)) ++
      (layout.lineBreak depth ++ [right])
    Closes text (tokens.flatMap (.comma :: ·) ++ [last]) ∧ Ends text := by
  have hbreak := fun n ↦ closes_blank (hblank.lineBreak n)
  have hcomma : Closes [','] [.comma] := fun _ ↦ rfl
  induction h with
  | nil =>
    refine ⟨(hbreak depth).append hright, ?_⟩
    show Ends (layout.lineBreak depth ++ [right])
    cases hlist : layout.lineBreak depth with
    | nil => exact ⟨right, [], rfl, hends⟩
    | cons c rest =>
      have hc := hblank.lineBreak depth c (by simp [hlist])
      exact ⟨c, rest ++ [right], rfl, by simp [endsWord, hc]⟩
  | cons helement _ ih =>
    have helement := hcomma.append ((hbreak inner).append (helement.append ih.1 ih.2))
    refine ⟨?_, ⟨',', _, rfl, rfl⟩⟩
    simpa only [List.flatMap_cons, List.append_assoc, List.cons_append, List.nil_append]
      using helement

/-- A container is cut into its brackets, its commas and the tokens of its elements. -/
theorem closes_enclose {depth : Nat} {left right : Char} {first last : Token}
    (hleft : Closes [left] [first]) (hright : Closes [right] [last])
    (hends : endsWord right = true) {texts : List (List Char)} {tokens : List (List Token)}
    (h : List.Forall₂ Spells texts tokens) :
    Closes (layout.enclose depth left right texts) (Token.enclose first last tokens) := by
  cases h with
  | nil => exact hleft.append hright
  | cons helement hrest =>
    have hbreak := closes_blank (hblank.lineBreak (depth + 1))
    obtain ⟨hclose, hstart⟩ :=
      closes_separated hblank depth (depth + 1) hright hends hrest
    have hall := hleft.append (hbreak.append (helement.append hclose hstart))
    simpa only [Layout.enclose, Token.enclose, List.append_assoc, List.cons_append,
      List.nil_append] using hall

/-- The text of a value is cut into the tokens of the value. -/
theorem spells_render (v : Json) (depth : Nat) : Spells (v.render layout depth) v.tokens := by
  induction v using values_induction generalizing depth with
  | null =>
    rw [render]
    exact spells_word (List.cons_ne_nil _ _) rfl rfl
  | bool b =>
    cases b with
    | true =>
      rw [render]
      exact spells_word (List.cons_ne_nil _ _) rfl rfl
    | false =>
      rw [render]
      exact spells_word (List.cons_ne_nil _ _) rfl rfl
  | number n => exact spells_number n
  | string s => exact (closes_quote s).spells
  | array items ih =>
    rw [render, Json.tokens]
    refine (closes_enclose hblank (fun _ ↦ rfl) (fun _ ↦ rfl) rfl ?_).spells
    induction items with
    | nil => exact .nil
    | cons v rest ihrest =>
      obtain ⟨hv, hrest⟩ := List.forall_mem_cons.1 ih
      exact .cons (hv _) (ihrest hrest)
  | object members ih =>
    rw [render, Json.tokens]
    refine (closes_enclose hblank (fun _ ↦ rfl) (fun _ ↦ rfl) rfl ?_).spells
    obtain ⟨blanks, hcolon, hblanks⟩ := hblank.colon
    have hsign : Closes [':'] [.colon] := fun _ ↦ rfl
    have hcolon : Closes layout.colon [.colon] := by
      rw [hcolon]
      exact hsign.append (closes_blank hblanks)
    induction members with
    | nil => exact .nil
    | cons m rest ihrest =>
      obtain ⟨hm, hrest⟩ := List.forall_mem_cons.1 ih
      refine .cons ?_ (ihrest hrest)
      exact ((closes_quote m.1).append hcolon).append_spells (hm _)

end Layouts

end Lexer

/-- The tokens of the text of a value are the tokens of the value, in every layout. -/
theorem tokens?_render {layout : Layout} (hblank : layout.IsBlank) (v : Json) (depth : Nat) :
    tokens? (v.render layout depth) = some v.tokens := by
  obtain ⟨s, hs, hsettled⟩ := Lexer.spells_render hblank v depth []
  rw [List.append_nil] at hsettled
  rw [tokens?, hs]
  show s.finish = _
  rw [hsettled.finish_eq, List.reverse_reverse]

/-! ### Putting tokens together -/

/-- In every object of the value the members stand in increasing order of their keys. -/
inductive Ordered : Json → Prop
  | null : Ordered .null
  | bool (b : Bool) : Ordered (.bool b)
  | number (n : Number) : Ordered (.number n)
  | string (s : String) : Ordered (.string s)
  | array {items : List Json} (parts : ∀ v ∈ items, Ordered v) : Ordered (.array items)
  | object {members : List (String × Json)}
      (keys : (members.map Prod.fst).Pairwise (· < ·)) (parts : ∀ m ∈ members, Ordered m.2) :
      Ordered (.object members)

theorem ordered_object_iff {members : List (String × Json)} :
    Ordered (.object members) ↔
      (members.map Prod.fst).Pairwise (· < ·) ∧ ∀ m ∈ members, Ordered m.2 := by
  constructor
  · intro h
    cases h with
    | object keys parts => exact ⟨keys, parts⟩
  · exact fun h ↦ .object h.1 h.2

theorem ordered_object_singleton {k : String} {v : Json} :
    Ordered (.object [(k, v)]) ↔ Ordered v := by
  rw [ordered_object_iff, List.forall_mem_singleton]
  exact and_iff_right (List.pairwise_singleton _ _)

theorem ordered_object_cons {k k' : String} {v v' : Json} {rest : List (String × Json)}
    (h : k < k') : Ordered (.object ((k, v) :: (k', v') :: rest)) ↔
      Ordered v ∧ Ordered (.object ((k', v') :: rest)) := by
  rw [ordered_object_iff, ordered_object_iff, List.map_cons, List.pairwise_cons,
    List.forall_mem_cons]
  constructor
  · rintro ⟨⟨-, hkeys⟩, hv, hrest⟩
    exact ⟨hv, hkeys, hrest⟩
  · rintro ⟨hv, hkeys, hrest⟩
    refine ⟨⟨fun key hkey ↦ ?_, hkeys⟩, hv, hrest⟩
    rcases List.mem_cons.1 hkey with rfl | hkey
    · exact h
    · exact String.lt_trans h ((List.pairwise_cons.1 hkeys).1 key hkey)

namespace Builder

/-- Wherever a value can stand, the tokens of the value are put together to the value. -/
def Rebuilds (v : Json) : Prop :=
  ∀ outer, v.tokens.foldlM step (.value outer) = some (fill v outer)

/-- The first item of an array is read like any value: it does not start with the closing
bracket. -/
theorem foldlM_firstItem (v : Json) (outer : List Hole) :
    v.tokens.foldlM step (.firstItem outer) =
      v.tokens.foldlM step (.value (.item [] :: outer)) := by
  cases v with
  | array items => cases items <;> rfl
  | object members =>
    cases members with
    | nil => rfl
    | cons m rest => rfl
  | _ => rfl

theorem foldlM_items {items : List Json} (h : ∀ v ∈ items, Rebuilds v) (outer : List Hole)
    (done : List Json) :
    ((itemTokens items).flatMap (.comma :: ·)).foldlM step (.afterItem outer done) =
      some (.afterItem outer (items.reverse ++ done)) := by
  induction items generalizing done with
  | nil => rfl
  | cons v rest ih =>
    obtain ⟨hv, hrest⟩ := List.forall_mem_cons.1 h
    have hstep : (Token.comma :: v.tokens).foldlM step (.afterItem outer done) =
        some (.afterItem outer (v :: done)) := hv (.item done :: outer)
    rw [itemTokens, List.flatMap_cons, List.foldlM_append, hstep, List.reverse_cons,
      List.append_assoc]
    exact ih hrest _

theorem rebuilds_array {items : List Json} (h : ∀ v ∈ items, Rebuilds v) :
    Rebuilds (.array items) := by
  intro outer
  cases items with
  | nil => rfl
  | cons v rest =>
    obtain ⟨hv, hrest⟩ := List.forall_mem_cons.1 h
    have hfirst : (Token.leftBracket :: v.tokens).foldlM step (.value outer) =
        some (.afterItem outer [v]) := (foldlM_firstItem v outer).trans (hv _)
    rw [tokens, itemTokens, Token.enclose, ← List.cons_append, ← List.cons_append,
      List.foldlM_append, List.foldlM_append, hfirst]
    show (((itemTokens rest).flatMap (.comma :: ·)).foldlM step (.afterItem outer [v])).bind _ = _
    rw [foldlM_items hrest]
    show some (fill (.array (rest.reverse ++ [v]).reverse) outer) = _
    rw [List.reverse_append, List.reverse_reverse]
    rfl

theorem foldlM_members {members : List (String × Json)} (h : ∀ m ∈ members, Rebuilds m.2)
    (outer : List Hole) (done : List (String × Json)) :
    ((memberTokens members).flatMap (.comma :: ·)).foldlM step (.afterMember outer done) =
      some (.afterMember outer
        (members.foldl (fun done m ↦ insertMember m.1 m.2 done) done)) := by
  induction members generalizing done with
  | nil => rfl
  | cons m rest ih =>
    obtain ⟨hm, hrest⟩ := List.forall_mem_cons.1 h
    have hstep : (Token.comma :: .text m.1 :: .colon :: m.2.tokens).foldlM step
        (.afterMember outer done) = some (.afterMember outer (insertMember m.1 m.2 done)) :=
      hm (.member done m.1 :: outer)
    rw [memberTokens, List.flatMap_cons, List.foldlM_append, hstep, List.foldl_cons]
    exact ih hrest _

theorem rebuilds_object {members : List (String × Json)}
    (hkeys : (members.map Prod.fst).Pairwise (· < ·)) (h : ∀ m ∈ members, Rebuilds m.2) :
    Rebuilds (.object members) := by
  intro outer
  cases members with
  | nil => rfl
  | cons m rest =>
    obtain ⟨hm, hrest⟩ := List.forall_mem_cons.1 h
    have hfirst : (Token.leftBrace :: .text m.1 :: .colon :: m.2.tokens).foldlM step
        (.value outer) = some (.afterMember outer [m]) := hm (.member [] m.1 :: outer)
    rw [tokens, memberTokens, Token.enclose, ← List.cons_append, ← List.cons_append,
      List.foldlM_append, List.foldlM_append, hfirst]
    show (((memberTokens rest).flatMap (.comma :: ·)).foldlM step
      (.afterMember outer [m])).bind _ = _
    rw [foldlM_members hrest, foldl_insertMember hkeys]
    rfl

/-- The tokens of a value are put together to the value, if its members are in order. -/
theorem rebuilds_of_ordered {v : Json} (h : v.Ordered) : Rebuilds v := by
  induction h with
  | array _ ih => exact rebuilds_array ih
  | object keys _ ih => exact rebuilds_object keys ih
  | _ => exact fun _ ↦ rfl

end Builder

/-! ### Reading text back -/

/-- The text of a value is read as the value. -/
theorem parse?_render {layout : Layout} (hblank : layout.IsBlank) {v : Json} (h : v.Ordered)
    (depth : Nat) : parse? (String.ofList (v.render layout depth)) = some v := by
  have hvalue : v.tokens.foldlM Builder.step (.value []) = some (.complete v) :=
    Builder.rebuilds_of_ordered h []
  rw [parse?, String.toList_ofList, tokens?_render hblank]
  show (v.tokens.foldlM Builder.step (.value [])).bind _ = _
  rw [hvalue]
  rfl

theorem parse?_compact {v : Json} (h : v.Ordered) : parse? v.compact = some v :=
  parse?_render Layout.isBlank_compact h 0

theorem parse?_pretty {v : Json} (h : v.Ordered) : parse? v.pretty = some v :=
  parse?_render Layout.isBlank_indented h 0

section Texts

variable {v w : Json} (hv : v.Ordered) (hw : w.Ordered)

include hv hw

theorem compact_eq_iff : v.compact = w.compact ↔ v = w := by
  refine ⟨fun h ↦ Option.some.inj ?_, congrArg compact⟩
  rw [← parse?_compact hv, h, parse?_compact hw]

theorem pretty_eq_iff : v.pretty = w.pretty ↔ v = w := by
  refine ⟨fun h ↦ Option.some.inj ?_, congrArg pretty⟩
  rw [← parse?_pretty hv, h, parse?_pretty hw]

/-- A text in one layout is not the text of another value in the other. -/
theorem eq_of_pretty_eq_compact (h : v.pretty = w.compact) : v = w := by
  refine Option.some.inj ?_
  rw [← parse?_pretty hv, h, parse?_compact hw]

end Texts

end Json

end ShapeQuery
