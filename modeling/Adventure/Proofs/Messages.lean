import Adventure.Phrase
import Adventure.Proofs.Outcome
import Mathlib.Data.List.Nodup
import Mathlib.Data.List.TakeWhile

/-!
# Messages that say all there is to say

* `Text.Piece.isSimple`: a part of a template that asks for nothing but the given fields;
* `Messages.IsComplete`: the messages have a text for every phrase, with no other fields than those
  that are filled;
* `plain_text`, `filled_comes`: **in complete messages every phrase can be said**;
* `Messages.just`: messages in which there is a sentence for one phrase and for no other.
-/

namespace Adventure

open Outcome

/-! ## 1. Templates with known fields -/

/-- The conversions a field may ask for. -/
def Text.isConversion : Option Char → Bool
  | none => true
  | some c => c == 's' || c == 'r' || c == 'a'

/-- A character, or a field under one of the keys, without a layout. -/
def Text.Piece.isSimple (keys : List String) : Piece → Bool
  | .plain _ => true
  | .field name conversion layout =>
    keys.contains (String.ofList name) && isConversion conversion && layout.isEmpty
  | .broken => false

/-- A key that is a name by itself, without steps after it. -/
def Text.isKey (key : List Char) : Bool :=
  key.all (fun c => c != '.' && c != '[') && Text.countFrom 0 key == .other

theorem Text.head_of_isKey {key : List Char} (h : isKey key = true) :
    headOf key = key ∧ stepsOf key = [] := by
  simp only [isKey, Bool.and_eq_true, List.all_eq_true] at h
  have plain : ∀ c ∈ key, decide (c ≠ '.' ∧ c ≠ '[') = true := by
    intro c hc
    simpa using h.1 c hc
  constructor
  · exact List.takeWhile_eq_self_iff.mpr plain
  · unfold stepsOf
    rw [List.dropWhile_eq_nil_iff.mpr plain]
    rfl

theorem convert_comes (v : Filling) {conversion : Option Char}
    (h : Text.isConversion conversion = true) : Comes (v.convert conversion) := by
  cases conversion with
  | none => exact comes_ok v
  | some c =>
      simp only [Text.isConversion, Bool.or_eq_true, beq_iff_eq] at h
      rcases h with (rfl | rfl) | rfl
      · exact comes_ok _
      · exact comes_ok _
      · exact comes_ok _

theorem namedValue_of_isKey {values : List (String × Filling)} {key : List Char} {v : Filling}
    (h : Text.isKey key = true) (hv : values.lookup (String.ofList key) = some v) :
    namedValue values key = .ok v := by
  obtain ⟨head, steps⟩ := Text.head_of_isKey h
  simp only [Text.isKey, Bool.and_eq_true, beq_iff_eq] at h
  simp only [namedValue, head, h.2, hv, steps]
  rfl

/-- Pieces that ask for given fields only can be filled. -/
theorem fillPieces_comes {values : List (String × Filling)}
    (keys : ∀ key ∈ values.map Prod.fst, Text.isKey key.toList = true) :
    ∀ {pieces : List Text.Piece},
      pieces.all (Text.Piece.isSimple (values.map Prod.fst)) = true →
        Comes (fillPieces values (fillLayout values) pieces)
  | [], _ => comes_ok []
  | piece :: pieces, h => by
      rw [List.all_cons, Bool.and_eq_true] at h
      have rest := fillPieces_comes keys h.2
      cases piece with
      | plain c => exact comes_bind rest fun _ _ => comes_pure _
      | broken => exact absurd h.1 (by simp [Text.Piece.isSimple])
      | field name conversion layout =>
          simp only [Text.Piece.isSimple, Bool.and_eq_true, List.contains_iff_mem,
            List.isEmpty_iff] at h
          obtain ⟨⟨⟨given, conv⟩, rfl⟩, -⟩ := h
          have key := keys _ given
          rw [String.toList_ofList] at key
          obtain ⟨v, hv⟩ : ∃ v, values.lookup (String.ofList name) = some v := by
            obtain ⟨e, he, hk⟩ := List.mem_map.mp given
            refine Option.isSome_iff_exists.mp (List.lookup_isSome_iff.mpr ⟨e, he, ?_⟩)
            rw [hk, beq_self_eq_true]
          refine comes_bind ⟨v, namedValue_of_isKey key hv⟩ fun v _ => ?_
          refine comes_bind (convert_comes v conv) fun v _ => ?_
          refine comes_bind (comes_ok []) fun layout e => ?_
          cases e
          refine comes_bind (comes_ok _) fun shown _ => ?_
          exact comes_bind rest fun _ _ => comes_pure _

/-! ## 2. Complete messages -/

theorem Phrase.mem_all (p : Phrase) : p ∈ Phrase.all := by
  cases p <;> decide

/-- The fields of phrases are names by themselves. -/
theorem Phrase.isKey_fields (p : Phrase) : ∀ key ∈ p.fields, Text.isKey key.toList = true := by
  have all : ∀ p ∈ Phrase.all, ∀ key ∈ p.fields, Text.isKey key.toList = true := by decide +kernel
  exact all p p.mem_all

namespace Messages

/-- The messages have a text for a phrase, with no other fields than those that are filled. -/
def covers (m : Messages) (p : Phrase) : Bool :=
  match m.content.get? p.word with
  | some (.text s) => p.fields.isEmpty || (Text.pieces s.toList).all (Text.Piece.isSimple p.fields)
  | _ => false

/-- **The messages have a text for every phrase**, with no other fields than those that are
    filled. -/
def IsComplete (m : Messages) : Prop := ∀ p ∈ Phrase.all, m.covers p = true

instance (m : Messages) : Decidable m.IsComplete := by
  unfold IsComplete
  infer_instance

section Complete

variable {m : Messages} (h : m.IsComplete)

include h

/-- In complete messages every phrase has a text. -/
theorem plain_text (p : Phrase) : ∃ s, m.plain p = .ok (.text s) ∧
    (p.fields = [] ∨ (Text.pieces s.toList).all (Text.Piece.isSimple p.fields) = true) := by
  have k := h p p.mem_all
  unfold covers at k
  split at k
  · next s hs =>
      refine ⟨s, ?_, ?_⟩
      · unfold plain
        cases e : m.content with
        | mapping es =>
            rw [e] at hs
            exact Content.demand_of_lookup hs
        | _ =>
            rw [e] at hs
            cases hs
      · rw [Bool.or_eq_true, List.isEmpty_iff] at k
        exact k
  · cases k

/-- **In complete messages a phrase can be said with its fields filled.** -/
theorem filled_comes {p : Phrase} {values : List (String × Filling)} (given : p.fields ≠ [])
    (fields : values.map Prod.fst = p.fields) : Comes (m.filled p values) := by
  obtain ⟨s, hs, simple⟩ := plain_text h p
  have simple := simple.resolve_left given
  rw [← fields] at simple
  have keys : ∀ key ∈ values.map Prod.fst, Text.isKey key.toList = true := by
    rw [fields]
    exact p.isKey_fields
  unfold filled
  refine comes_bind ⟨_, hs⟩ fun c hc => ?_
  unfold plain at hs
  rw [hs] at hc
  cases hc
  obtain ⟨said, hsaid⟩ := fillPieces_comes keys simple
  have done : fill s values = .ok (String.ofList said) := by
    unfold fill
    rw [hsaid]
    rfl
  simp only [done]
  exact comes_pure _

end Complete

end Messages

/-! ## 3. Messages with one sentence -/

theorem Phrase.word_injective : Function.Injective Phrase.word := by
  have distinct : (Phrase.all.map Phrase.word).Nodup := by decide +kernel
  exact fun p q e => List.inj_on_of_nodup_map distinct p.mem_all q.mem_all e

namespace Messages

/-- Messages in which there is a text for one phrase and for no other. -/
def just (phrase : Phrase) (text : String) : Messages where
  content := .mapping [(phrase.word, .text text)]

theorem plain_just (phrase : Phrase) (text : String) :
    (just phrase text).plain phrase = .ok (.text text) :=
  Content.demand_of_lookup List.lookup_cons_self

/-- Nothing else can be said with them. -/
theorem just_mute {phrase other : Phrase} (h : other ≠ phrase) (text : String) :
    (just phrase text).plain other = .error (.unknownKey (.text other.word)) ∧
      (just phrase text).filled other = fun _ => .error (.unknownKey (.text other.word)) := by
  have differs : (other.word == phrase.word) = false :=
    beq_false_of_ne fun e => h (Phrase.word_injective e)
  have missing : (just phrase text).content.demand other.word =
      .error (.unknownKey (.text other.word)) := by
    simp only [just, Content.demand, List.lookup_cons, differs, List.lookup_nil]
  refine ⟨missing, funext fun values => ?_⟩
  unfold filled
  rw [missing]
  rfl

end Messages

end Adventure
