import Mathlib.Data.List.Basic

/-! Incremental parsing of a stream that arrives in pieces. A format is given by
what a finite piece of input shows at its front; a decision about the front is
never revised by later input. Everything here is about such formats in general. -/

namespace Foundation.Stream

universe u v

/-- What a finite input shows at its front. -/
inductive Front (α : Type v) where
  | incomplete
  | rejected
  | item (value : α) (size : Nat)

structure Format (β : Type u) (α : Type v) where
  front : List β → Front α
  positive : ∀ {input value size}, front input = .item value size → 0 < size
  inside : ∀ {input value size}, front input = .item value size → size ≤ input.length
  item_stable : ∀ {input value size} (more : List β),
    front input = .item value size → front (input ++ more) = .item value size
  rejected_stable : ∀ {input} (more : List β),
    front input = .rejected → front (input ++ more) = .rejected
  empty : front [] = .incomplete

/-- The items taken from the front of an input, what is left when no further
item can be taken, and whether that is because the rest was rejected. -/
structure Parse (β : Type u) (α : Type v) where
  items : List α
  rest : List β
  rejected : Bool

variable {β : Type u} {α : Type v}

def Parse.after (items : List α) (parse : Parse β α) : Parse β α :=
  { parse with items := items ++ parse.items }

@[simp] theorem Parse.after_items (items : List α) (parse : Parse β α) :
    (parse.after items).items = items ++ parse.items := rfl

@[simp] theorem Parse.after_rest (items : List α) (parse : Parse β α) :
    (parse.after items).rest = parse.rest := rfl

@[simp] theorem Parse.after_rejected (items : List α) (parse : Parse β α) :
    (parse.after items).rejected = parse.rejected := rfl

theorem Parse.after_after (first second : List α) (parse : Parse β α) :
    (parse.after second).after first = parse.after (first ++ second) := by
  simp [Parse.after]

namespace Format
variable (format : Format β α)

def parse (input : List β) : Parse β α :=
  match seen : format.front input with
  | .incomplete => ⟨[], input, false⟩
  | .rejected => ⟨[], input, true⟩
  | .item value size =>
    have _ := format.positive seen
    have _ := format.inside seen
    (parse (input.drop size)).after [value]
termination_by input.length
decreasing_by
  simp only [List.length_drop]
  omega

theorem parse_incomplete {input : List β} (seen : format.front input = .incomplete) :
    format.parse input = ⟨[], input, false⟩ := by
  unfold parse
  split <;> simp_all

theorem parse_rejected {input : List β} (seen : format.front input = .rejected) :
    format.parse input = ⟨[], input, true⟩ := by
  unfold parse
  split <;> simp_all

theorem parse_item {input : List β} {value : α} {size : Nat}
    (seen : format.front input = .item value size) :
    format.parse input = (format.parse (input.drop size)).after [value] := by
  rw [parse]
  split <;> simp_all

/-- The cases of one parsing step, as an induction principle for facts about
whole parses. -/
theorem parse_induction {motive : List β → Prop}
    (incomplete : ∀ input, format.front input = .incomplete → motive input)
    (rejected : ∀ input, format.front input = .rejected → motive input)
    (item : ∀ input value size, format.front input = .item value size →
      motive (input.drop size) → motive input) (input : List β) : motive input := by
  induction length : input.length using Nat.strongRecOn generalizing input with
  | ind count ih =>
    cases seen : format.front input with
    | incomplete => exact incomplete input seen
    | rejected => exact rejected input seen
    | item value size =>
      have positive := format.positive seen
      have inside := format.inside seen
      refine item input value size seen (ih (input.drop size).length ?_ _ rfl)
      simp only [List.length_drop]
      omega

/-- What an unrejected parse leaves behind is an incomplete front, so resuming
with more input starts from exactly that state. -/
theorem rest_incomplete {input : List β} (accepted : (format.parse input).rejected = false) :
    format.front (format.parse input).rest = .incomplete := by
  induction input using format.parse_induction with
  | incomplete input seen => rw [format.parse_incomplete seen]; exact seen
  | rejected input seen => simp [format.parse_rejected seen] at accepted
  | item input value size seen ih =>
    rw [format.parse_item seen] at accepted ⊢
    exact ih accepted

theorem rest_suffix (input : List β) : (format.parse input).rest <:+ input := by
  induction input using format.parse_induction with
  | incomplete input seen => simp [format.parse_incomplete seen]
  | rejected input seen => simp [format.parse_rejected seen]
  | item input value size seen ih =>
    rw [format.parse_item seen]
    exact ih.trans (List.drop_suffix size input)

/-- A rejected front stays where it is when more input arrives. -/
theorem parse_append_rejected {input : List β} (more : List β)
    (refused : (format.parse input).rejected = true) :
    (format.parse (input ++ more)).items = (format.parse input).items ∧
      (format.parse (input ++ more)).rejected = true := by
  induction input using format.parse_induction with
  | incomplete input seen => simp [format.parse_incomplete seen] at refused
  | rejected input seen =>
    rw [format.parse_rejected seen, format.parse_rejected (format.rejected_stable more seen)]
    exact ⟨rfl, rfl⟩
  | item input value size seen ih =>
    have inside := format.inside seen
    rw [format.parse_item seen] at refused ⊢
    rw [format.parse_item (format.item_stable more seen), List.drop_append_of_le_length inside]
    obtain ⟨items, still⟩ := ih refused
    exact ⟨by simp [items], still⟩

/-- Parsing a longer input is parsing its first part and going on from the
unparsed rest of that part. -/
theorem parse_append {input : List β} (more : List β)
    (accepted : (format.parse input).rejected = false) :
    format.parse (input ++ more) =
      (format.parse ((format.parse input).rest ++ more)).after (format.parse input).items := by
  induction input using format.parse_induction with
  | incomplete input seen =>
    rw [format.parse_incomplete seen]
    simp [Parse.after]
  | rejected input seen => simp [format.parse_rejected seen] at accepted
  | item input value size seen ih =>
    have inside := format.inside seen
    rw [format.parse_item seen] at accepted ⊢
    rw [format.parse_item (format.item_stable more seen), List.drop_append_of_le_length inside,
      ih accepted, Parse.after_after]
    rfl

/-- Feed a stream piece by piece. A rejected piece is the last one delivered. -/
def feed : List β → List (List β) → Parse β α
  | rest, [] => ⟨[], rest, false⟩
  | rest, piece :: pieces =>
    let now := format.parse (rest ++ piece)
    if now.rejected then now else (feed now.rest pieces).after now.items

/-- However a stream is cut, feeding the pieces yields the items of the whole
stream, rejects exactly when the whole stream is rejected, and otherwise leaves
exactly the unparsed rest. -/
theorem feed_parse (rest : List β) (pieces : List (List β))
    (waiting : format.front rest = .incomplete) :
    (format.feed rest pieces).items = (format.parse (rest ++ pieces.flatten)).items ∧
    (format.feed rest pieces).rejected = (format.parse (rest ++ pieces.flatten)).rejected ∧
    ((format.feed rest pieces).rejected = false →
      (format.feed rest pieces).rest = (format.parse (rest ++ pieces.flatten)).rest) := by
  induction pieces generalizing rest with
  | nil => simp [feed, format.parse_incomplete waiting]
  | cons piece pieces ih =>
    simp only [feed, List.flatten_cons, ← List.append_assoc]
    cases refused : (format.parse (rest ++ piece)).rejected with
    | true =>
      obtain ⟨items, still⟩ := format.parse_append_rejected pieces.flatten refused
      simp only [refused, ↓reduceIte, items, still, true_and]
      exact fun impossible => by cases impossible
    | false =>
      obtain ⟨items, same, left⟩ := ih _ (format.rest_incomplete refused)
      rw [format.parse_append pieces.flatten refused]
      simp only [Bool.false_eq_true, ↓reduceIte, Parse.after_items, Parse.after_rest, Parse.after_rejected]
      exact ⟨by rw [items], same, left⟩

/-- Every intermediate rest together with the next piece stays within `cap`. -/
def Fits (cap : Nat) : List β → List (List β) → Prop
  | _, [] => True
  | rest, piece :: pieces =>
    rest.length + piece.length ≤ cap ∧
      ((format.parse (rest ++ piece)).rejected = false →
        Fits cap (format.parse (rest ++ piece)).rest pieces)

end Format

/-- A format whose items have encodings: an encoding is recognised whatever
follows it, and no proper part of it is. -/
structure Codec (β : Type u) (α : Type v) extends Format β α where
  encode : α → List β
  recognised : ∀ value more, front (encode value ++ more) = .item value (encode value).length
  partial_incomplete : ∀ value count, count < (encode value).length →
    front ((encode value).take count) = .incomplete

/-- How much of the last unfinished item the first `count` symbols hold, for
items of the given sizes. -/
def pending : List Nat → Nat → Nat
  | [], count => count
  | size :: sizes, count => if count < size then count else pending sizes (count - size)

namespace Codec
variable (codec : Codec β α)

def encodeAll (values : List α) : List β := (values.map codec.encode).flatten

theorem encodeAll_cons (value : α) (values : List α) :
    codec.encodeAll (value :: values) = codec.encode value ++ codec.encodeAll values := rfl

theorem parse_encode_append (value : α) (more : List β) :
    codec.parse (codec.encode value ++ more) = (codec.parse more).after [value] := by
  rw [codec.parse_item (codec.recognised value more), List.drop_left]

theorem parse_encodeAll (values : List α) : codec.parse (codec.encodeAll values) = ⟨values, [], false⟩ := by
  induction values with
  | nil => exact codec.parse_incomplete codec.empty
  | cons value values ih =>
    rw [encodeAll_cons, parse_encode_append, ih]
    rfl

/-- A cut anywhere in a well-formed stream leaves a rest of exactly the length
of the item that was cut. -/
theorem parse_take (values : List α) (count : Nat) (inside : count ≤ (codec.encodeAll values).length) :
    (codec.parse ((codec.encodeAll values).take count)).rejected = false ∧
      (codec.parse ((codec.encodeAll values).take count)).rest.length =
        pending (values.map fun value => (codec.encode value).length) count := by
  induction values generalizing count with
  | nil =>
    have none_left : count = 0 := by simpa [encodeAll] using inside
    subst count
    simp [pending, codec.parse_incomplete codec.empty]
  | cons value values ih =>
    rw [encodeAll_cons]
    simp only [List.map_cons, pending]
    split
    next short =>
      rw [List.take_append_of_le_length (by omega), codec.parse_incomplete (codec.partial_incomplete value count short)]
      simp
      omega
    next whole =>
      have remaining : count - (codec.encode value).length ≤ (codec.encodeAll values).length := by
        rw [encodeAll_cons, List.length_append] at inside
        omega
      rw [List.take_append, List.take_of_length_le (by omega), parse_encode_append]
      exact ih _ remaining

/-- For a well-formed stream the capacity condition on intermediate rests is a
condition on the sizes of the items and on where the cuts are. -/
theorem fits_iff (cap : Nat) (values : List α) (pieces : List (List β))
    (cut : pieces.flatten = codec.encodeAll values) :
    codec.Fits cap [] pieces ↔
      ∀ before piece after, pieces = before ++ piece :: after →
        pending (values.map fun value => (codec.encode value).length) before.flatten.length + piece.length ≤ cap := by
  -- The induction runs over the pieces still to come; `seen` is what was already fed.
  suffices general : ∀ seen pieces : List (List β), (seen ++ pieces).flatten = codec.encodeAll values →
      (codec.Fits cap (codec.parse seen.flatten).rest pieces ↔
        ∀ before piece after, pieces = before ++ piece :: after →
          pending (values.map fun value => (codec.encode value).length) (seen ++ before).flatten.length + piece.length ≤ cap) by
    have start := general [] pieces (by simpa using cut)
    simpa [codec.parse_incomplete codec.empty] using start
  intro seen pieces
  induction pieces generalizing seen with
  | nil => simp [Format.Fits]
  | cons piece pieces ih =>
    intro whole
    have taken (front back : List (List β)) (same : (front ++ back).flatten = codec.encodeAll values) :
        front.flatten = (codec.encodeAll values).take front.flatten.length ∧
          front.flatten.length ≤ (codec.encodeAll values).length := by
      rw [← same]
      simp
    obtain ⟨same, inside⟩ := taken seen (piece :: pieces) whole
    obtain ⟨accepted, length⟩ := codec.parse_take values seen.flatten.length inside
    rw [← same] at accepted length
    have later : (seen ++ [piece] ++ pieces).flatten = codec.encodeAll values := by simpa using whole
    obtain ⟨sameNext, insideNext⟩ := taken (seen ++ [piece]) pieces later
    obtain ⟨acceptedNext, -⟩ := codec.parse_take values (seen ++ [piece]).flatten.length insideNext
    rw [← sameNext] at acceptedNext
    have resumed : codec.parse (seen ++ [piece]).flatten =
        (codec.parse ((codec.parse seen.flatten).rest ++ piece)).after (codec.parse seen.flatten).items := by
      simpa using codec.parse_append piece accepted
    rw [resumed] at acceptedNext
    have step := ih (seen ++ [piece]) later
    rw [resumed, Parse.after_rest] at step
    simp only [Format.Fits]
    rw [show ((codec.parse ((codec.parse seen.flatten).rest ++ piece)).rejected = false) = True from
      eq_true acceptedNext, true_imp_iff, step, length]
    constructor
    · rintro ⟨first, others⟩ before next after split
      cases before with
      | nil =>
        obtain ⟨rfl, -⟩ := List.cons.inj split
        simpa using first
      | cons head before =>
        obtain ⟨rfl, tail⟩ := List.cons.inj split
        simpa using others before next after tail
    · intro all
      refine ⟨by simpa using all [] piece pieces rfl, ?_⟩
      intro before next after split
      simpa using all (piece :: before) next after (by simp [split])

end Codec
end Foundation.Stream
