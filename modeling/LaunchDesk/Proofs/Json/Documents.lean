import LaunchDesk.Json.Parser
import LaunchDesk.Proofs.Json.Tokens

/-!
# Written documents are read again

The tokens of a document are read as this document and as no other, whatever its depth; so is its
text, if all its strings and numbers can be written.

## Implementation notes

The statements about reading leave open what surrounds a document, so that they hold of its parts
as well; each of them is about one of the five ways in which tokens of a document go on.
-/

namespace LaunchDesk.Json

open Decimal Text

namespace Reader

variable {r s : Reader}

theorem run_append (r : Reader) (ts us : List Token) :
    r.run (ts ++ us) = (r.run ts).bind fun s => s.run us :=
  List.foldlM_append

theorem run_cons (r : Reader) (t : Token) (ts : List Token) :
    r.run (t :: ts) = (r.next t).bind fun s => s.run ts := rfl

/-- The first item of an array is read like any other value. -/
theorem run_firstItem (outer : List Frame) (doc : Json) :
    (firstItem outer).run doc.tokens = (value (.list [] :: outer)).run doc.tokens := by
  cases doc <;> rfl

end Reader

open Reader

mutual

/-- The tokens of a document complete a value. -/
theorem run_tokens (outer : List Frame) :
    ∀ doc : Json, (value outer).run doc.tokens = some (.after outer doc)
  | .null => rfl
  | .bool _ => rfl
  | .num _ => rfl
  | .str _ => rfl
  | .arr items => by
      rw [tokens, run_cons]
      exact run_itemTokens outer items
  | .obj members => by
      rw [tokens, run_cons]
      exact run_memberTokens outer members

theorem run_itemTokens (outer : List Frame) :
    ∀ items : List Json,
      (firstItem outer).run (tokens.itemTokens items) = some (.after outer (.arr items))
  | [] => rfl
  | v :: items => by
      rw [tokens.itemTokens, run_append, run_firstItem, run_tokens _ v, Option.bind_some,
        run_moreItemTokens outer [] v items]
      rfl

theorem run_moreItemTokens (outer : List Frame) (done : List Json) (v : Json) :
    ∀ items : List Json, (after (.list done :: outer) v).run (tokens.moreItemTokens items) =
      some (.after outer (.arr ((v :: done).reverse ++ items)))
  | [] => by
      rw [List.append_nil]
      rfl
  | w :: items => by
      rw [tokens.moreItemTokens, List.cons_append, run_cons]
      simp only [next, afterValue, Option.bind_some]
      rw [run_append, run_tokens _ w, Option.bind_some,
        run_moreItemTokens outer (v :: done) w items]
      simp

theorem run_memberTokens (outer : List Frame) :
    ∀ members : List (Option String × Json),
      (firstName outer).run (tokens.memberTokens members) = some (.after outer (.obj members))
  | [] => rfl
  | (name, v) :: members => by
      rw [tokens.memberTokens, List.cons_append, List.cons_append, run_cons]
      simp only [next, Option.bind_some]
      rw [run_cons]
      simp only [next, Option.bind_some]
      rw [run_append, run_tokens _ v, Option.bind_some,
        run_moreMemberTokens outer [] name v members]
      rfl

theorem run_moreMemberTokens (outer : List Frame) (done : List (Option String × Json))
    (name : Option String) (v : Json) :
    ∀ members : List (Option String × Json),
      (after (.record done name :: outer) v).run (tokens.moreMemberTokens members) =
        some (.after outer (.obj (((name, v) :: done).reverse ++ members)))
  | [] => by
      rw [List.append_nil]
      rfl
  | (more, w) :: members => by
      rw [tokens.moreMemberTokens, List.cons_append, List.cons_append, List.cons_append, run_cons]
      simp only [next, afterValue, Option.bind_some]
      rw [run_cons]
      simp only [next, Option.bind_some]
      rw [run_cons]
      simp only [next, Option.bind_some]
      rw [run_append, run_tokens _ w, Option.bind_some,
        run_moreMemberTokens outer ((name, v) :: done) more w members]
      simp

end

/-- Tokens of a document are read as this document. -/
theorem ofTokens?_tokens (doc : Json) : ofTokens? doc.tokens = some doc := by
  rw [ofTokens?, run_tokens]
  rfl

section History

/-- The tokens of items, each with a comma behind it. -/
def itemsBefore (items : List Json) : List Token :=
  items.flatMap fun v => v.tokens ++ [.comma]

/-- The tokens of members, each with a comma behind it. -/
def membersBefore (members : List (Option String × Json)) : List Token :=
  members.flatMap fun m => .str m.1 :: .colon :: m.2.tokens ++ [.comma]

theorem itemTokens_append (items : List Json) (v : Json) (after : List Json) :
    tokens.itemTokens (items ++ v :: after) =
      itemsBefore items ++ v.tokens ++ tokens.moreItemTokens after := by
  induction items with
  | nil => rfl
  | cons w items ih =>
      have hmore : tokens.moreItemTokens (items ++ v :: after) =
          .comma :: tokens.itemTokens (items ++ v :: after) := by
        cases items <;> rfl
      rw [List.cons_append, tokens.itemTokens, hmore, ih]
      simp [itemsBefore]

theorem memberTokens_append (members : List (Option String × Json)) (name : Option String)
    (v : Json) (after : List (Option String × Json)) :
    tokens.memberTokens (members ++ (name, v) :: after) =
      membersBefore members ++ .str name :: .colon :: v.tokens ++
        tokens.moreMemberTokens after := by
  induction members with
  | nil => rfl
  | cons m members ih =>
      have hmore : tokens.moreMemberTokens (members ++ (name, v) :: after) =
          .comma :: tokens.memberTokens (members ++ (name, v) :: after) := by
        cases members <;> rfl
      rw [List.cons_append, tokens.memberTokens, hmore, ih]
      simp [membersBefore]

namespace Frame

/-- The tokens that opened an array or object, up to the place that is read. -/
def soFar : Frame → List Token
  | list items => .leftBracket :: itemsBefore items.reverse
  | record members name => .leftBrace :: membersBefore members.reverse ++ [.str name, .colon]

end Frame

/-- The tokens that opened all arrays and objects around the place that is read. -/
def outerTokens (outer : List Frame) : List Token :=
  outer.reverse.flatMap Frame.soFar

@[simp] theorem outerTokens_cons (frame : Frame) (outer : List Frame) :
    outerTokens (frame :: outer) = outerTokens outer ++ frame.soFar := by
  simp [outerTokens]

/-- The tokens that a reader has taken. -/
def Reader.soFar : Reader → List Token
  | value outer => outerTokens outer
  | firstItem outer => outerTokens outer ++ [.leftBracket]
  | firstName outer => outerTokens outer ++ [.leftBrace]
  | nextName outer members => outerTokens outer ++ .leftBrace :: membersBefore members.reverse
  | colon outer members name =>
      outerTokens outer ++ .leftBrace :: membersBefore members.reverse ++ [.str name]
  | after outer v => outerTokens outer ++ v.tokens

end History

section Texts

/-- Tokens that may follow a value: none, or a comma or a closing bracket first. -/
def Closed (ts : List Token) : Prop :=
  Separate ts ∧ ∀ t ∈ ts.head?, isCloser t

theorem separate_cons {t : Token} {ts : List Token} (ht : isNumber t = false) (h : Separate ts) :
    Separate (t :: ts) := by
  apply List.IsChain.cons h
  intro u _ hnumber
  simp [ht] at hnumber

theorem Closed.separate_num {n : Numeral} {ts : List Token} (h : Closed ts) :
    Separate (.num n :: ts) := by
  apply List.IsChain.cons h.1
  intro u hu _
  exact h.2 u hu

theorem closed_cons {t : Token} {ts : List Token} (ht : isCloser t) (h : Separate ts) :
    Closed (t :: ts) := by
  constructor
  · apply separate_cons _ h
    cases t <;> simp_all [isCloser, isNumber]
  · intro u hu
    obtain rfl : t = u := by simpa using hu
    exact ht

mutual

theorem separate_tokens {rest : List Token} (h : Closed rest) :
    ∀ doc : Json, Separate (doc.tokens ++ rest)
  | .null => separate_cons rfl h.1
  | .bool _ => separate_cons rfl h.1
  | .num _ => h.separate_num
  | .str _ => separate_cons rfl h.1
  | .arr items => separate_cons rfl (separate_itemTokens h items)
  | .obj members => separate_cons rfl (separate_memberTokens h members)

theorem separate_itemTokens {rest : List Token} (h : Closed rest) :
    ∀ items : List Json, Separate (tokens.itemTokens items ++ rest)
  | [] => separate_cons rfl h.1
  | v :: items => by
      rw [tokens.itemTokens, List.append_assoc]
      exact separate_tokens (closed_moreItemTokens h items) v

theorem closed_moreItemTokens {rest : List Token} (h : Closed rest) :
    ∀ items : List Json, Closed (tokens.moreItemTokens items ++ rest)
  | [] => closed_cons rfl h.1
  | v :: items => by
      rw [tokens.moreItemTokens, List.append_assoc]
      exact closed_cons rfl (separate_tokens (closed_moreItemTokens h items) v)

theorem separate_memberTokens {rest : List Token} (h : Closed rest) :
    ∀ members : List (Option String × Json), Separate (tokens.memberTokens members ++ rest)
  | [] => separate_cons rfl h.1
  | (_, v) :: members => by
      rw [tokens.memberTokens, List.append_assoc]
      exact separate_cons rfl
        (separate_cons rfl (separate_tokens (closed_moreMemberTokens h members) v))

theorem closed_moreMemberTokens {rest : List Token} (h : Closed rest) :
    ∀ members : List (Option String × Json), Closed (tokens.moreMemberTokens members ++ rest)
  | [] => closed_cons rfl h.1
  | (_, v) :: members => by
      rw [tokens.moreMemberTokens, List.append_assoc]
      exact closed_cons rfl (separate_cons rfl
        (separate_cons rfl (separate_tokens (closed_moreMemberTokens h members) v)))

end

/-- A document all of whose tokens can be written and read. -/
def LegibleDoc (doc : Json) : Prop :=
  ∀ t ∈ doc.tokens, Legible t

/-- The text of a document is read as the document. -/
theorem parse?_render {doc : Json} (h : LegibleDoc doc) : parse? doc.render = some doc := by
  have hs : Separate doc.tokens := by
    have hnil : Closed [] := ⟨.nil, by simp⟩
    simpa using separate_tokens hnil doc
  have hlex : lex? (asPieces doc.chars) = some doc.tokens := lex?_tokensText h hs
  rw [parse?, ofPieces?, render, textPieces_ofList, hlex, Option.bind_some, ofTokens?_tokens]

section Legible

theorem legibleDoc_null : LegibleDoc .null := by
  intro t ht
  obtain rfl : t = .null := by simpa [tokens] using ht
  exact trivial

theorem legibleDoc_bool (b : Bool) : LegibleDoc (.bool b) := by
  intro t ht
  obtain rfl : t = .bool b := by simpa [tokens] using ht
  exact trivial

theorem legibleDoc_num {n : Numeral} (h : Tidy n.whole) : LegibleDoc (.num n) := by
  intro t ht
  obtain rfl : t = .num n := by simpa [tokens] using ht
  exact h

theorem legibleDoc_text (s : String) : LegibleDoc (.text s) := by
  intro t ht
  obtain rfl : t = .str (some s) := by simpa [text, tokens] using ht
  exact rfl

theorem legible_of_mem_moreItemTokens {items : List Json} (h : ∀ v ∈ items, LegibleDoc v) :
    ∀ t ∈ tokens.moreItemTokens items, Legible t := by
  induction items with
  | nil =>
      intro t ht
      obtain rfl : t = .rightBracket := by simpa [tokens.moreItemTokens] using ht
      exact trivial
  | cons v items ih =>
      obtain ⟨hv, hitems⟩ := List.forall_mem_cons.mp h
      intro t ht
      rw [tokens.moreItemTokens, List.mem_append, List.mem_cons] at ht
      rcases ht with (rfl | ht) | ht
      · exact trivial
      · exact hv t ht
      · exact ih hitems t ht

theorem legibleDoc_arr {items : List Json} (h : ∀ v ∈ items, LegibleDoc v) :
    LegibleDoc (.arr items) := by
  intro t ht
  rw [tokens, List.mem_cons] at ht
  rcases ht with rfl | ht
  · exact trivial
  cases items with
  | nil => exact legible_of_mem_moreItemTokens h t ht
  | cons v items =>
      obtain ⟨hv, hitems⟩ := List.forall_mem_cons.mp h
      rw [tokens.itemTokens, List.mem_append] at ht
      rcases ht with ht | ht
      · exact hv t ht
      · exact legible_of_mem_moreItemTokens hitems t ht

/-- The members of a record with the given names and values. -/
def named (members : List (String × Json)) : List (Option String × Json) :=
  members.map fun (name, v) => (some name, v)

theorem legible_of_mem_moreMemberTokens {members : List (String × Json)}
    (h : ∀ m ∈ members, LegibleDoc m.2) :
    ∀ t ∈ tokens.moreMemberTokens (named members), Legible t := by
  induction members with
  | nil =>
      intro t ht
      obtain rfl : t = .rightBrace := by simpa [named, tokens.moreMemberTokens] using ht
      exact trivial
  | cons m members ih =>
      obtain ⟨hm, hmembers⟩ := List.forall_mem_cons.mp h
      intro t ht
      simp only [named, List.map_cons, tokens.moreMemberTokens, List.mem_append,
        List.mem_cons] at ht
      rcases ht with (rfl | rfl | rfl | ht) | ht
      · exact trivial
      · exact rfl
      · exact trivial
      · exact hm t ht
      · exact ih hmembers t ht

theorem legibleDoc_record {members : List (String × Json)} (h : ∀ m ∈ members, LegibleDoc m.2) :
    LegibleDoc (.record members) := by
  intro t ht
  rw [record, tokens, List.mem_cons] at ht
  rcases ht with rfl | ht
  · exact trivial
  cases members with
  | nil => exact legible_of_mem_moreMemberTokens h t ht
  | cons m members =>
      obtain ⟨hm, hmembers⟩ := List.forall_mem_cons.mp h
      simp only [List.map_cons, tokens.memberTokens, List.mem_append, List.mem_cons] at ht
      rcases ht with (rfl | rfl | ht) | ht
      · exact rfl
      · exact trivial
      · exact hm t ht
      · exact legible_of_mem_moreMemberTokens hmembers t ht

end Legible

end Texts

end LaunchDesk.Json
