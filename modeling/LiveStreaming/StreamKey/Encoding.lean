import LiveStreaming.StreamKey.Revoke
import Mathlib.Data.List.Nodup
import Mathlib.Data.List.OfFn

/-!
# The stream key's hex encoding

`GenerateStreamKey` writes its 32 random bytes with `hex.EncodeToString`: two
lower-case digits per byte, high half first. The program never reads a key
back into bytes; `decodeString` is `hex.DecodeString`'s reading, stated here
to say what a key's string determines. It reads every key back as the bytes
it was made from (`stream_key_round_trip`), so the encoding is injective and a
key is 64 characters from `0123456789abcdef`.

The run theorems about the key maps assume `FreshKeys`: no generated key
repeats an earlier one. By injectivity this holds exactly when the run's
random draws are pairwise distinct (`fresh_keys_iff_distinct_draws`).
-/

namespace LiveStreaming.StreamKeys

/-! ## Reading hex -/

/-- The value of a hex digit as `hex.Decode` reads it, in either case. -/
def hexValue (c : Char) : Option Nat :=
  if '0' ≤ c ∧ c ≤ '9' then some (c.toNat - '0'.toNat)
  else if 'a' ≤ c ∧ c ≤ 'f' then some (c.toNat - 'a'.toNat + 10)
  else if 'A' ≤ c ∧ c ≤ 'F' then some (c.toNat - 'A'.toNat + 10)
  else none

/-- `hex.Decode` over a list of digits: two digits a byte, high half first;
an odd length or a character that is no digit fails. -/
def decodeDigits : List Char → Option (List UInt8)
  | [] => some []
  | [_] => none
  | high :: low :: rest => do
      let high ← hexValue high
      let low ← hexValue low
      let bytes ← decodeDigits rest
      pure (UInt8.ofNat (16 * high + low) :: bytes)

def decodeString (s : String) : Option (List UInt8) :=
  decodeDigits s.data

/-- The two digits `hex.EncodeToString` writes for one byte. -/
def hexPair (byte : UInt8) : List Char :=
  [Nat.digitChar (byte.toNat / 16), Nat.digitChar (byte.toNat % 16)]

theorem encodeToString_data (keyBytes : Fin 32 → UInt8) :
    (encodeToString keyBytes).data = (List.ofFn keyBytes).flatMap hexPair := by
  simp only [encodeToString]; rfl

/-- Each of the sixteen digits reads back as its own value. -/
theorem hexValue_digitChar {value : Nat} (small : value < 16) :
    hexValue (Nat.digitChar value) = some value := by
  revert value
  decide

/-- A byte is its high half times sixteen plus its low half. -/
theorem byte_of_halves (byte : UInt8) :
    UInt8.ofNat (16 * (byte.toNat / 16) + byte.toNat % 16) = byte := by
  rw [Nat.div_add_mod]
  exact UInt8.toNat.inj (UInt8.toNat_ofNat_of_lt byte.toBitVec.isLt)

theorem decodeDigits_flatMap_hexPair :
    ∀ bytes : List UInt8, decodeDigits (bytes.flatMap hexPair) = some bytes
  | [] => rfl
  | byte :: rest => by
      have small : byte.toNat < 256 := byte.toBitVec.isLt
      show decodeDigits (Nat.digitChar (byte.toNat / 16) :: Nat.digitChar (byte.toNat % 16) ::
        rest.flatMap hexPair) = _
      rw [decodeDigits, hexValue_digitChar (by omega), hexValue_digitChar (by omega),
        decodeDigits_flatMap_hexPair rest]
      simp only [Option.bind_eq_bind, Option.some_bind, byte_of_halves]
      rfl

theorem decodeString_encodeToString (keyBytes : Fin 32 → UInt8) :
    decodeString (encodeToString keyBytes) = some (List.ofFn keyBytes) := by
  rw [decodeString, encodeToString_data, decodeDigits_flatMap_hexPair]

theorem length_flatMap_hexPair :
    ∀ bytes : List UInt8, (bytes.flatMap hexPair).length = 2 * bytes.length
  | [] => rfl
  | _ :: rest => by
      rw [List.flatMap_cons, List.length_append, length_flatMap_hexPair rest, List.length_cons]
      simp only [hexPair, List.length_cons, List.length_nil]
      omega

/-- The digits `hex.EncodeToString` writes. -/
theorem mem_hexPair {byte : UInt8} {c : Char} (member : c ∈ hexPair byte) :
    c ∈ "0123456789abcdef".data := by
  have digit : ∀ value < 16, Nat.digitChar value ∈ "0123456789abcdef".data := by decide
  have small : byte.toNat < 256 := byte.toBitVec.isLt
  simp only [hexPair, List.mem_cons, List.mem_singleton, List.not_mem_nil, or_false] at member
  rcases member with rfl | rfl <;> exact digit _ (by omega)

/-- Every stream key reads back as the bytes it was made from, and is 64
characters from `0123456789abcdef`. -/
theorem stream_key_round_trip (keyBytes : Fin 32 → UInt8) :
    decodeString (encodeToString keyBytes) = some (List.ofFn keyBytes) ∧
      (encodeToString keyBytes).length = 64 ∧
      ∀ c ∈ (encodeToString keyBytes).data, c ∈ "0123456789abcdef".data := by
  refine ⟨decodeString_encodeToString keyBytes, ?_, fun c member => ?_⟩
  · rw [String.length, encodeToString_data, length_flatMap_hexPair, List.length_ofFn]
  · rw [encodeToString_data] at member
    obtain ⟨byte, -, inPair⟩ := List.mem_flatMap.mp member
    exact mem_hexPair inPair

theorem encodeToString_injective : Function.Injective encodeToString := by
  intro keyBytes otherBytes same
  have readBack := congrArg decodeString same
  rw [decodeString_encodeToString, decodeString_encodeToString] at readBack
  exact List.ofFn_injective (Option.some.inj readBack)

/-! ## Fresh keys are fresh draws -/

/-- The random bytes a `generate` event drew, when the draw succeeded. -/
def StreamKeyEvent.drawnBytes : StreamKeyEvent → Option (Fin 32 → UInt8)
  | .generate _ _ _ _ keyBytes => keyBytes
  | _ => none

/-- The random draws of a run, in order. -/
def drawnBytes (events : List (Int × StreamKeyEvent)) : List (Fin 32 → UInt8) :=
  events.flatMap fun event => event.2.drawnBytes.toList

theorem StreamKeyEvent.generatedKey_eq_map (event : StreamKeyEvent) :
    event.generatedKey = event.drawnBytes.map encodeToString := by
  cases event with
  | generate _ _ _ _ keyBytes => cases keyBytes <;> rfl
  | _ => rfl

theorem generatedKeys_eq_map :
    ∀ events : List (Int × StreamKeyEvent), generatedKeys events = (drawnBytes events).map encodeToString
  | [] => rfl
  | (_, event) :: rest => by
      simp only [generatedKeys, drawnBytes, List.flatMap_cons, List.map_append] at generatedKeys_eq_map ⊢
      rw [generatedKeys_eq_map rest, event.generatedKey_eq_map]
      cases event.drawnBytes <;> rfl

/-- `FreshKeys` says the run's keys are distinct and none is among those seen
before. -/
theorem freshKeys_iff :
    ∀ (seen : List String) (events : List (Int × StreamKeyEvent)),
      FreshKeys seen events ↔ (generatedKeys events).Nodup ∧ ∀ key ∈ generatedKeys events, key ∉ seen
  | _, [] => by simp [FreshKeys, generatedKeys]
  | seen, (_, event) :: rest => by
      have rest := freshKeys_iff (seen ++ event.generatedKey.toList) rest
      simp only [FreshKeys, generatedKeys, List.flatMap_cons] at rest ⊢
      rw [rest]
      cases event.generatedKey with
      | none =>
        simp only [reduceCtorEq, IsEmpty.forall_iff, implies_true, Option.toList_none, List.append_nil,
          List.nil_append, true_and]
      | some key =>
          simp only [Option.toList_some, List.singleton_append, List.nodup_cons, List.mem_cons,
            List.mem_append, List.mem_singleton, forall_eq_or_imp, Option.some.injEq, forall_eq',
            List.not_mem_nil, or_false, not_or]
          constructor
          · rintro ⟨unseen, nodup, fresh⟩
            exact ⟨⟨fun member => (fresh key member).2 rfl, nodup⟩, unseen,
              fun other member => fun seenOther => (fresh other member).1 seenOther⟩
          · rintro ⟨⟨notLater, nodup⟩, unseen, fresh⟩
            exact ⟨unseen, nodup, fun other member =>
              ⟨fresh other member, fun same => notLater (same ▸ member)⟩⟩

/-- A run's generated keys are fresh exactly when its random draws are
pairwise distinct. -/
theorem fresh_keys_iff_distinct_draws (events : List (Int × StreamKeyEvent)) :
    FreshKeys [] events ↔ (drawnBytes events).Nodup := by
  rw [freshKeys_iff, generatedKeys_eq_map, List.nodup_map_iff encodeToString_injective]
  simp

end LiveStreaming.StreamKeys
