import UrjaSetu.Library.Numerals
import UrjaSetu.Library.Sorting

/-!
JSON values and their compact text.

Objects keep their members in a list, so the order in which a writer emits them
is visible; `orderKeys` puts the members of every object in the order of a
relation. The text is the compact one: no blanks, `ensure_ascii` off.

Owns: that the text determines the value, and that ordering by one relation
forgets any earlier order of a value whose objects have distinct keys.
-/

namespace UrjaSetu.Library

open Numerals

inductive Json where
  | null
  | bool (value : Bool)
  | int (value : ℤ)
  | str (value : String)
  | arr (items : List Json)
  | obj (members : List (String × Json))

namespace Json

/-! ## Texts of strings -/

/-- The text of one character inside a string. -/
def escape (char : Char) : List Char :=
  if char = '"' then ['\\', '"']
  else if char = '\\' then ['\\', '\\']
  else if char = '\n' then ['\\', 'n']
  else if char = '\r' then ['\\', 'r']
  else if char = '\t' then ['\\', 't']
  else if char = '\x08' then ['\\', 'b']
  else if char = '\x0c' then ['\\', 'f']
  else if char.toNat < 32 then '\\' :: 'u' :: hexChars 4 char.toNat
  else [char]

/-- Read one character back. -/
def unescape : List Char → Option (Char × List Char)
  | '\\' :: '"' :: rest => some ('"', rest)
  | '\\' :: '\\' :: rest => some ('\\', rest)
  | '\\' :: 'n' :: rest => some ('\n', rest)
  | '\\' :: 'r' :: rest => some ('\r', rest)
  | '\\' :: 't' :: rest => some ('\t', rest)
  | '\\' :: 'b' :: rest => some ('\x08', rest)
  | '\\' :: 'f' :: rest => some ('\x0c', rest)
  | '\\' :: 'u' :: d₁ :: d₂ :: d₃ :: d₄ :: rest =>
      ((List.range 32).find? fun code => hexChars 4 code = [d₁, d₂, d₃, d₄]).map fun code =>
        (Char.ofNat code, rest)
  | char :: rest => some (char, rest)
  | [] => none

theorem unescape_control (code : ℕ) (control : code < 32) (rest : List Char) :
    unescape ('\\' :: 'u' :: (hexChars 4 code ++ rest)) = some (Char.ofNat code, rest) := by
  have found : ∀ code < 32,
      (List.range 32).find? (fun other => hexChars 4 other = hexChars 4 code) = some code := by
    decide
  have digits : ∃ d₁ d₂ d₃ d₄, hexChars 4 code = [d₁, d₂, d₃, d₄] :=
    ⟨_, _, _, _, rfl⟩
  have here := found code control
  obtain ⟨d₁, d₂, d₃, d₄, equal⟩ := digits
  rw [equal] at here ⊢
  show (((List.range 32).find? fun other => hexChars 4 other = [d₁, d₂, d₃, d₄]).map fun code =>
    (Char.ofNat code, rest)) = _
  rw [here]
  rfl

theorem unescape_escape (char : Char) (rest : List Char) :
    unescape (escape char ++ rest) = some (char, rest) := by
  unfold escape
  split_ifs with quote backslash newline return_ tab backspace formFeed control
  all_goals try (subst_vars; rfl)
  · rw [List.cons_append, List.cons_append, unescape_control _ control, Char.ofNat_toNat]
  · rw [List.singleton_append]
    unfold unescape
    split <;> simp_all

theorem escape_head (char : Char) : ∃ head tail, escape char = head :: tail ∧ head ≠ '"' := by
  unfold escape
  split_ifs with quote
  all_goals first
    | exact ⟨'\\', _, rfl, by decide⟩
    | exact ⟨char, _, rfl, quote⟩

/-- A string between its quotes. -/
def quoted (text : String) : List Char := '"' :: (text.toList.flatMap escape ++ ['"'])

theorem escaped_append_inj {left right leftRest rightRest : List Char}
    (same : left.flatMap escape ++ '"' :: leftRest = right.flatMap escape ++ '"' :: rightRest) :
    left = right ∧ leftRest = rightRest := by
  induction left generalizing right with
  | nil =>
      cases right with
      | nil => exact ⟨rfl, (List.cons.inj same).2⟩
      | cons char rest =>
          obtain ⟨head, tail, escaped, notQuote⟩ := escape_head char
          rw [List.flatMap_cons, escaped] at same
          exact absurd (List.cons.inj same).1.symm notQuote
  | cons char rest inductionHypothesis =>
      cases right with
      | nil =>
          obtain ⟨head, tail, escaped, notQuote⟩ := escape_head char
          rw [List.flatMap_cons, escaped] at same
          exact absurd (List.cons.inj same).1 notQuote
      | cons other others =>
          rw [List.flatMap_cons, List.flatMap_cons, List.append_assoc, List.append_assoc] at same
          have readBack := congrArg unescape same
          rw [unescape_escape, unescape_escape, Option.some_inj, Prod.mk.injEq] at readBack
          have rests := inductionHypothesis readBack.2
          exact ⟨by rw [readBack.1, rests.1], rests.2⟩

theorem quoted_append_inj {left right : String} {leftRest rightRest : List Char}
    (same : quoted left ++ leftRest = quoted right ++ rightRest) :
    left = right ∧ leftRest = rightRest := by
  unfold quoted at same
  rw [List.cons_append, List.cons_append, List.append_assoc, List.append_assoc] at same
  have parts := escaped_append_inj (List.cons.inj same).2
  exact ⟨String.toList_injective parts.1, parts.2⟩

/-! ## The compact text -/

mutual

/-- `json.dumps(value, separators=(",", ":"), ensure_ascii=False)`. -/
def chars : Json → List Char
  | .null => ['n', 'u', 'l', 'l']
  | .bool true => ['t', 'r', 'u', 'e']
  | .bool false => ['f', 'a', 'l', 's', 'e']
  | .int value => intChars value
  | .str value => quoted value
  | .arr [] => ['[', ']']
  | .arr (item :: items) => '[' :: (item.chars ++ laterItems items)
  | .obj [] => ['{', '}']
  | .obj ((key, value) :: members) => '{' :: (quoted key ++ ':' :: (value.chars ++ laterMembers members))

/-- The items after the first, with the closing bracket. -/
def laterItems : List Json → List Char
  | [] => [']']
  | item :: items => ',' :: (item.chars ++ laterItems items)

def laterMembers : List (String × Json) → List Char
  | [] => ['}']
  | (key, value) :: members => ',' :: (quoted key ++ ':' :: (value.chars ++ laterMembers members))

end

def dumps (value : Json) : String := String.ofList value.chars

example : (arr [null, int (-3), str "x\"y\n"]).dumps = "[null,-3,\"x\\\"y\\n\"]" := by
  decide +kernel

theorem laterItems_ends (items : List Json) (rest : List Char) :
    EndsNumeral (laterItems items ++ rest) := by
  cases items with
  | nil => exact EndsNumeral.cons (by decide) _
  | cons item items => exact EndsNumeral.cons (by decide) _

theorem laterMembers_ends (members : List (String × Json)) (rest : List Char) :
    EndsNumeral (laterMembers members ++ rest) := by
  cases members with
  | nil => exact EndsNumeral.cons (by decide) _
  | cons member members => exact EndsNumeral.cons (by decide) _

/-! ## The text determines the value -/

/-- Which kind of value a text with this first character is of. -/
def charKind (char : Char) : ℕ :=
  if char = 'n' then 0 else if char = 't' then 1 else if char = 'f' then 2
  else if char = '"' then 3 else if char = '[' then 4 else if char = '{' then 5
  else if char = ']' then 7 else 6

def kind : Json → ℕ
  | .null => 0
  | .bool true => 1
  | .bool false => 2
  | .str _ => 3
  | .arr _ => 4
  | .obj _ => 5
  | .int _ => 6

theorem chars_kind (value : Json) :
    ∃ head tail, value.chars = head :: tail ∧ charKind head = value.kind := by
  cases value with
  | null => exact ⟨_, _, by rw [chars], rfl⟩
  | bool value => cases value <;> exact ⟨_, _, by rw [chars], rfl⟩
  | str value => exact ⟨_, _, by rw [chars, quoted], rfl⟩
  | arr items => cases items <;> exact ⟨_, _, by rw [chars], rfl⟩
  | obj members => cases members <;> exact ⟨_, _, by rw [chars], rfl⟩
  | int value =>
      obtain ⟨head, tail, equal, sign | digit⟩ := intChars_head value
      · exact ⟨head, tail, by rw [chars, equal], by rw [sign]; rfl⟩
      · refine ⟨head, tail, by rw [chars, equal], ?_⟩
        have notLetter : ∀ other : Char, other.isDigit = false → head ≠ other := by
          intro other noDigit same
          rw [← same, digit] at noDigit
          cases noDigit
        simp [charKind, kind, notLetter]

theorem kind_eq_of_append {left right : Json} {leftRest rightRest : List Char}
    (same : left.chars ++ leftRest = right.chars ++ rightRest) : left.kind = right.kind := by
  obtain ⟨leftHead, leftTail, leftEq, leftKind⟩ := chars_kind left
  obtain ⟨rightHead, rightTail, rightEq, rightKind⟩ := chars_kind right
  rw [leftEq, rightEq, List.cons_append, List.cons_append] at same
  rw [← leftKind, ← rightKind, (List.cons.inj same).1]

/-- No value starts where an array ends. -/
theorem chars_ne_close (value : Json) (rest other : List Char) :
    value.chars ++ rest ≠ ']' :: other := by
  intro same
  obtain ⟨head, tail, equal, headKind⟩ := chars_kind value
  rw [equal, List.cons_append, List.cons.injEq] at same
  rw [same.1] at headKind
  cases value with
  | bool value => cases value <;> cases headKind
  | _ => cases headKind

mutual

theorem chars_append_inj : ∀ (left right : Json) {leftRest rightRest : List Char},
    EndsNumeral leftRest → EndsNumeral rightRest →
    left.chars ++ leftRest = right.chars ++ rightRest → left = right ∧ leftRest = rightRest
  | .null, right, _, _, _, _, same => by
      have kinds := kind_eq_of_append same
      cases right with
      | null => exact ⟨rfl, List.append_cancel_left same⟩
      | bool value => cases value <;> cases kinds
      | _ => cases kinds
  | .bool left, right, _, _, _, _, same => by
      have kinds := kind_eq_of_append same
      cases right with
      | bool value =>
          have values : left = value := by cases left <;> cases value <;> first | rfl | cases kinds
          subst values
          exact ⟨rfl, List.append_cancel_left same⟩
      | _ => cases left <;> cases kinds
  | .int left, right, _, _, leftEnds, rightEnds, same => by
      have kinds := kind_eq_of_append same
      cases right with
      | int value =>
          rw [chars, chars] at same
          have parts := intChars_append_inj leftEnds rightEnds same
          exact ⟨by rw [parts.1], parts.2⟩
      | bool value => cases value <;> cases kinds
      | _ => cases kinds
  | .str left, right, _, _, _, _, same => by
      have kinds := kind_eq_of_append same
      cases right with
      | str value =>
          rw [chars, chars] at same
          have parts := quoted_append_inj same
          exact ⟨by rw [parts.1], parts.2⟩
      | bool value => cases value <;> cases kinds
      | _ => cases kinds
  | .arr left, right, _, _, leftEnds, rightEnds, same => by
      have kinds := kind_eq_of_append same
      cases right with
      | arr items =>
          have parts := items_append_inj left items leftEnds rightEnds same
          exact ⟨by rw [parts.1], parts.2⟩
      | bool value => cases value <;> cases kinds
      | _ => cases kinds
  | .obj left, right, _, _, leftEnds, rightEnds, same => by
      have kinds := kind_eq_of_append same
      cases right with
      | obj members =>
          have parts := members_append_inj left members leftEnds rightEnds same
          exact ⟨by rw [parts.1], parts.2⟩
      | bool value => cases value <;> cases kinds
      | _ => cases kinds

theorem items_append_inj : ∀ (left right : List Json) {leftRest rightRest : List Char},
    EndsNumeral leftRest → EndsNumeral rightRest →
    (arr left).chars ++ leftRest = (arr right).chars ++ rightRest →
      left = right ∧ leftRest = rightRest
  | [], right, _, _, _, _, same => by
      cases right with
      | nil => exact ⟨rfl, List.append_cancel_left same⟩
      | cons item items =>
          simp only [chars, List.cons_append, List.append_assoc] at same
          exact absurd (List.cons.inj same).2.symm (chars_ne_close item _ _)
  | item :: items, right, leftRest, rightRest, leftEnds, rightEnds, same => by
      cases right with
      | nil =>
          simp only [chars, List.cons_append, List.append_assoc] at same
          exact absurd (List.cons.inj same).2 (chars_ne_close item _ _)
      | cons other others =>
          rw [chars, chars, List.cons_append, List.cons_append, List.append_assoc,
            List.append_assoc] at same
          have first := chars_append_inj item other (laterItems_ends items leftRest)
            (laterItems_ends others rightRest) (List.cons.inj same).2
          have later := laterItems_append_inj items others leftEnds rightEnds first.2
          exact ⟨by rw [first.1, later.1], later.2⟩

theorem laterItems_append_inj : ∀ (left right : List Json) {leftRest rightRest : List Char},
    EndsNumeral leftRest → EndsNumeral rightRest →
    laterItems left ++ leftRest = laterItems right ++ rightRest →
      left = right ∧ leftRest = rightRest
  | [], right, _, _, _, _, same => by
      cases right with
      | nil => exact ⟨rfl, List.append_cancel_left same⟩
      | cons item items => exact absurd (List.cons.inj same).1 (by decide)
  | item :: items, right, leftRest, rightRest, leftEnds, rightEnds, same => by
      cases right with
      | nil => exact absurd (List.cons.inj same).1 (by decide)
      | cons other others =>
          rw [laterItems, laterItems, List.cons_append, List.cons_append, List.append_assoc,
            List.append_assoc] at same
          have first := chars_append_inj item other (laterItems_ends items leftRest)
            (laterItems_ends others rightRest) (List.cons.inj same).2
          have later := laterItems_append_inj items others leftEnds rightEnds first.2
          exact ⟨by rw [first.1, later.1], later.2⟩

theorem members_append_inj : ∀ (left right : List (String × Json)) {leftRest rightRest : List Char},
    EndsNumeral leftRest → EndsNumeral rightRest →
    (obj left).chars ++ leftRest = (obj right).chars ++ rightRest →
      left = right ∧ leftRest = rightRest
  | [], right, _, _, _, _, same => by
      cases right with
      | nil => exact ⟨rfl, List.append_cancel_left same⟩
      | cons member members =>
          rw [chars, chars, quoted] at same
          exact absurd (List.cons.inj (List.cons.inj same).2).1 (by decide)
  | (key, value) :: members, right, leftRest, rightRest, leftEnds, rightEnds, same => by
      cases right with
      | nil =>
          rw [chars, chars, quoted] at same
          exact absurd (List.cons.inj (List.cons.inj same).2).1 (by decide)
      | cons other others =>
          obtain ⟨otherKey, otherValue⟩ := other
          rw [chars, chars, List.cons_append, List.cons_append, List.append_assoc,
            List.append_assoc, List.cons_append, List.cons_append, List.append_assoc,
            List.append_assoc] at same
          have keys := quoted_append_inj (List.cons.inj same).2
          have values := chars_append_inj value otherValue (laterMembers_ends members leftRest)
            (laterMembers_ends others rightRest) (List.cons.inj keys.2).2
          have later := laterMembers_append_inj members others leftEnds rightEnds values.2
          exact ⟨by rw [keys.1, values.1, later.1], later.2⟩

theorem laterMembers_append_inj : ∀ (left right : List (String × Json))
    {leftRest rightRest : List Char}, EndsNumeral leftRest → EndsNumeral rightRest →
    laterMembers left ++ leftRest = laterMembers right ++ rightRest →
      left = right ∧ leftRest = rightRest
  | [], right, _, _, _, _, same => by
      cases right with
      | nil => exact ⟨rfl, List.append_cancel_left same⟩
      | cons member members =>
          rw [laterMembers, laterMembers] at same
          exact absurd (List.cons.inj same).1 (by decide)
  | (key, value) :: members, right, leftRest, rightRest, leftEnds, rightEnds, same => by
      cases right with
      | nil =>
          rw [laterMembers, laterMembers] at same
          exact absurd (List.cons.inj same).1 (by decide)
      | cons other others =>
          obtain ⟨otherKey, otherValue⟩ := other
          rw [laterMembers, laterMembers, List.cons_append, List.cons_append, List.append_assoc,
            List.append_assoc, List.cons_append, List.cons_append, List.append_assoc,
            List.append_assoc] at same
          have keys := quoted_append_inj (List.cons.inj same).2
          have values := chars_append_inj value otherValue (laterMembers_ends members leftRest)
            (laterMembers_ends others rightRest) (List.cons.inj keys.2).2
          have later := laterMembers_append_inj members others leftEnds rightEnds values.2
          exact ⟨by rw [keys.1, values.1, later.1], later.2⟩

end

/-- Two values with the same text are the same value. -/
theorem dumps_injective : Function.Injective dumps := by
  intro left right same
  have texts : left.chars ++ [] = right.chars ++ [] := by
    rw [List.append_nil, List.append_nil]
    exact String.ofList_injective same
  exact (chars_append_inj left right EndsNumeral.nil EndsNumeral.nil texts).1

/-! ## Order of members -/

section Order

variable {κ τ : Type*} [LinearOrder κ] [LinearOrder τ]

def sortMembers {ν : Type*} (rank : String → κ) (members : List (String × ν)) : List (String × ν) :=
  sortBy (fun member => rank member.1) members

mutual

/-- Put the members of every object in the order of their keys' ranks. -/
def orderKeys (rank : String → κ) : Json → Json
  | .null => .null
  | .bool value => .bool value
  | .int value => .int value
  | .str value => .str value
  | .arr items => .arr (orderItems rank items)
  | .obj members => .obj (sortMembers rank (orderMembers rank members))

def orderItems (rank : String → κ) : List Json → List Json
  | [] => []
  | item :: items => item.orderKeys rank :: orderItems rank items

def orderMembers (rank : String → κ) : List (String × Json) → List (String × Json)
  | [] => []
  | (key, value) :: members => (key, value.orderKeys rank) :: orderMembers rank members

end

mutual

/-- No object of the value has two members with one key. -/
def DistinctKeys : Json → Prop
  | .arr items => ItemsDistinct items
  | .obj members => (members.map Prod.fst).Nodup ∧ MembersDistinct members
  | _ => True

def ItemsDistinct : List Json → Prop
  | [] => True
  | item :: items => item.DistinctKeys ∧ ItemsDistinct items

def MembersDistinct : List (String × Json) → Prop
  | [] => True
  | (_, value) :: members => value.DistinctKeys ∧ MembersDistinct members

end

theorem orderMembers_eq_map (rank : String → κ) (members : List (String × Json)) :
    orderMembers rank members = members.map (Prod.map id (orderKeys rank)) := by
  induction members with
  | nil => rfl
  | cons member members inductionHypothesis =>
      rw [orderMembers, inductionHypothesis]
      rfl

theorem orderMembers_keys (rank : String → κ) (members : List (String × Json)) :
    (orderMembers rank members).map Prod.fst = members.map Prod.fst := by
  rw [orderMembers_eq_map, List.map_map]
  rfl

theorem membersDistinct_iff {members : List (String × Json)} :
    MembersDistinct members ↔ ∀ member ∈ members, member.2.DistinctKeys := by
  induction members with
  | nil => simp [MembersDistinct]
  | cons member members inductionHypothesis => simp [MembersDistinct, inductionHypothesis]

/-- Sorting members by key and ordering inside their values commute. -/
theorem orderMembers_sortMembers (rank : String → κ) (other : String → τ)
    (members : List (String × Json)) :
    orderMembers rank (sortMembers other members) =
      sortMembers other (orderMembers rank members) := by
  let memberRank := fun member : String × Json => other member.1
  have moved := sortBy_map memberRank (Prod.map id (orderKeys rank)) memberRank (fun _ => rfl) members
  rw [orderMembers_eq_map, orderMembers_eq_map]
  exact moved.symm

/-- Sorting by one rank forgets an earlier sort. -/
theorem sortMembers_sortMembers {ν : Type*} {rank : String → κ} (injective : Function.Injective rank)
    (other : String → τ) {members : List (String × ν)} (distinct : (members.map Prod.fst).Nodup) :
    sortMembers rank (sortMembers other members) = sortMembers rank members := by
  apply sortBy_eq_of_perm
  · have keys : (sortMembers other members).map (fun member => rank member.1) =
        ((sortMembers other members).map Prod.fst).map rank := by
      rw [List.map_map]
      rfl
    rw [keys]
    have sorted : ((sortMembers other members).map Prod.fst).Nodup :=
      ((sortBy_perm _ members).map Prod.fst).nodup_iff.mpr distinct
    exact sorted.map injective
  · exact sortBy_perm _ members

mutual

/-- Ordering the members keeps the keys of every object distinct. -/
theorem distinctKeys_orderKeys (rank : String → κ) : ∀ value : Json, value.DistinctKeys →
    (value.orderKeys rank).DistinctKeys
  | .null, _ => trivial
  | .bool _, _ => trivial
  | .int _, _ => trivial
  | .str _, _ => trivial
  | .arr items, distinct => itemsDistinct_orderItems rank items distinct
  | .obj members, distinct => by
      have perm := sortBy_perm (fun member : String × Json => rank member.1)
        (orderMembers rank members)
      refine ⟨?_, ?_⟩
      · rw [sortMembers, (perm.map Prod.fst).nodup_iff, orderMembers_keys]
        exact distinct.1
      · have inside := membersDistinct_orderMembers rank members distinct.2
        rw [membersDistinct_iff] at inside ⊢
        intro member sorted
        exact inside member (perm.mem_iff.mp sorted)

theorem itemsDistinct_orderItems (rank : String → κ) : ∀ items : List Json, ItemsDistinct items →
    ItemsDistinct (orderItems rank items)
  | [], _ => trivial
  | item :: items, distinct =>
      ⟨distinctKeys_orderKeys rank item distinct.1, itemsDistinct_orderItems rank items distinct.2⟩

theorem membersDistinct_orderMembers (rank : String → κ) : ∀ members : List (String × Json),
    MembersDistinct members → MembersDistinct (orderMembers rank members)
  | [], _ => trivial
  | (_, value) :: members, distinct =>
      ⟨distinctKeys_orderKeys rank value distinct.1,
        membersDistinct_orderMembers rank members distinct.2⟩

end

mutual

/-- Ordering by one rank forgets any earlier order. -/
theorem orderKeys_orderKeys {rank : String → κ} (injective : Function.Injective rank)
    (other : String → τ) : ∀ value : Json, value.DistinctKeys →
      (value.orderKeys other).orderKeys rank = value.orderKeys rank
  | .null, _ => rfl
  | .bool _, _ => rfl
  | .int _, _ => rfl
  | .str _, _ => rfl
  | .arr items, distinct => by
      rw [orderKeys, orderKeys, orderKeys, orderItems_orderItems injective other items distinct]
  | .obj members, distinct => by
      rw [orderKeys, orderKeys, orderKeys, orderMembers_sortMembers,
        orderMembers_orderMembers injective other members distinct.2,
        sortMembers_sortMembers injective]
      rw [orderMembers_keys]
      exact distinct.1

theorem orderItems_orderItems {rank : String → κ} (injective : Function.Injective rank)
    (other : String → τ) : ∀ items : List Json, ItemsDistinct items →
      orderItems rank (orderItems other items) = orderItems rank items
  | [], _ => rfl
  | item :: items, distinct => by
      rw [orderItems, orderItems, orderItems, orderKeys_orderKeys injective other item distinct.1,
        orderItems_orderItems injective other items distinct.2]

theorem orderMembers_orderMembers {rank : String → κ} (injective : Function.Injective rank)
    (other : String → τ) : ∀ members : List (String × Json), MembersDistinct members →
      orderMembers rank (orderMembers other members) = orderMembers rank members
  | [], _ => rfl
  | (key, value) :: members, distinct => by
      rw [orderMembers, orderMembers, orderMembers,
        orderKeys_orderKeys injective other value distinct.1,
        orderMembers_orderMembers injective other members distinct.2]

end

end Order

/-! ## Values up to the order of members -/

mutual

/-- Two values are one JSON value when they differ only in the order of the
members of their objects. -/
def SameValue : Json → Json → Prop
  | .arr items, .arr others => SameItems items others
  | .obj members, .obj others =>
      ∃ reordered : List (String × Json), SameMembers members reordered ∧ reordered.Perm others
  | value, other => value = other

def SameItems : List Json → List Json → Prop
  | [], [] => True
  | item :: items, other :: others => item.SameValue other ∧ SameItems items others
  | _, _ => False

def SameMembers : List (String × Json) → List (String × Json) → Prop
  | [], [] => True
  | (key, value) :: members, (otherKey, other) :: others =>
      key = otherKey ∧ value.SameValue other ∧ SameMembers members others
  | _, _ => False

end

theorem SameMembers.keys : ∀ {members others : List (String × Json)},
    SameMembers members others → members.map Prod.fst = others.map Prod.fst
  | [], [], _ => rfl
  | [], _ :: _, same => same.elim
  | _ :: _, [], same => same.elim
  | (_, _) :: _, (_, _) :: _, ⟨key, _, rest⟩ => congrArg₂ List.cons key rest.keys

section SameValue

variable {κ : Type*} [LinearOrder κ]

mutual

/-- One JSON value has one form with ordered members. -/
theorem SameValue.orderKeys_eq {rank : String → κ} (injective : Function.Injective rank) :
    ∀ {value other : Json}, value.DistinctKeys → value.SameValue other →
      value.orderKeys rank = other.orderKeys rank
  | .null, _, _, same => congrArg (orderKeys rank) same
  | .bool _, _, _, same => congrArg (orderKeys rank) same
  | .int _, _, _, same => congrArg (orderKeys rank) same
  | .str _, _, _, same => congrArg (orderKeys rank) same
  | .arr items, .arr others, distinct, same => by
      rw [orderKeys, orderKeys, SameItems.orderItems_eq injective distinct same]
  | .obj members, .obj others, distinct, same => by
      obtain ⟨reordered, pointwise, perm⟩ := same
      have values := SameMembers.orderMembers_eq injective distinct.2 pointwise
      have keys : ((orderMembers rank reordered).map fun member => rank member.1).Nodup := by
        have ranked := distinct.1.map injective
        rw [pointwise.keys, ← orderMembers_keys rank, List.map_map] at ranked
        exact ranked
      have ordered : (orderMembers rank reordered).Perm (orderMembers rank others) := by
        rw [orderMembers_eq_map, orderMembers_eq_map]
        exact perm.map _
      rw [orderKeys, orderKeys, values, sortMembers, sortMembers,
        sortBy_eq_of_perm _ keys ordered]
  | .arr _, .null, _, same => by cases same
  | .arr _, .bool _, _, same => by cases same
  | .arr _, .int _, _, same => by cases same
  | .arr _, .str _, _, same => by cases same
  | .arr _, .obj _, _, same => by cases same
  | .obj _, .null, _, same => by cases same
  | .obj _, .bool _, _, same => by cases same
  | .obj _, .int _, _, same => by cases same
  | .obj _, .str _, _, same => by cases same
  | .obj _, .arr _, _, same => by cases same

theorem SameItems.orderItems_eq {rank : String → κ} (injective : Function.Injective rank) :
    ∀ {items others : List Json}, ItemsDistinct items → SameItems items others →
      orderItems rank items = orderItems rank others
  | [], [], _, _ => rfl
  | [], _ :: _, _, same => same.elim
  | _ :: _, [], _, same => same.elim
  | _ :: _, _ :: _, distinct, same => by
      rw [orderItems, orderItems, SameValue.orderKeys_eq injective distinct.1 same.1,
        SameItems.orderItems_eq injective distinct.2 same.2]

theorem SameMembers.orderMembers_eq {rank : String → κ} (injective : Function.Injective rank) :
    ∀ {members others : List (String × Json)}, MembersDistinct members →
      SameMembers members others → orderMembers rank members = orderMembers rank others
  | [], [], _, _ => rfl
  | [], _ :: _, _, same => same.elim
  | _ :: _, [], _, same => same.elim
  | (_, _) :: _, (_, _) :: _, distinct, same => by
      rw [orderMembers, orderMembers, SameValue.orderKeys_eq injective distinct.1 same.2.1,
        SameMembers.orderMembers_eq injective distinct.2 same.2.2, same.1]

end

mutual

/-- Ordering the members leaves the JSON value the same. -/
theorem sameValue_orderKeys (rank : String → κ) : ∀ value : Json,
    value.SameValue (value.orderKeys rank)
  | .null => rfl
  | .bool _ => rfl
  | .int _ => rfl
  | .str _ => rfl
  | .arr items => sameItems_orderItems rank items
  | .obj members =>
      ⟨orderMembers rank members, sameMembers_orderMembers rank members,
        (sortBy_perm (fun member : String × Json => rank member.1) _).symm⟩

theorem sameItems_orderItems (rank : String → κ) : ∀ items : List Json,
    SameItems items (orderItems rank items)
  | [] => trivial
  | item :: items => ⟨sameValue_orderKeys rank item, sameItems_orderItems rank items⟩

theorem sameMembers_orderMembers (rank : String → κ) : ∀ members : List (String × Json),
    SameMembers members (orderMembers rank members)
  | [] => trivial
  | (_, value) :: members =>
      ⟨rfl, sameValue_orderKeys rank value, sameMembers_orderMembers rank members⟩

end

end SameValue

end Json

end UrjaSetu.Library
