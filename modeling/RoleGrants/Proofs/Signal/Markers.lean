import RoleGrants.Signal.Basic

/-! # Markers

A marker that is written is read again as it was (`Marker.ofText?_text`).  A bump
writes a marker beyond the present one, unless it writes the greatest of all
(`Marker.lt_next`).  A reading tells what stands under the key and a writing puts its
marker there, unless the cache refuses (`Signal.read_cases`, `Signal.write_cases`). -/

set_option autoImplicit false

namespace RoleGrants
namespace Text

/-! ## Digits -/

theorem toNat_of_isDigit {character : Char} (digit : character.isDigit = true) :
    48 ≤ character.toNat ∧ character.toNat ≤ 57 := by
  simp only [Char.isDigit, ge_iff_le, Bool.and_eq_true, decide_eq_true_eq,
    UInt32.le_iff_toNat_le] at digit
  exact digit

theorem digitValue?_of_isDigit {character : Char} (digit : character.isDigit = true) :
    digitValue? character = some (character.toNat - 48) ∧ character.toNat - 48 < 10 := by
  have range := toNat_of_isDigit digit
  refine ⟨?_, by omega⟩
  rw [digitValue?]
  exact if_pos range

theorem digitsFrom_of_isDigit {characters : List Char}
    (digits : ∀ character ∈ characters, character.isDigit = true) (value : Nat) :
    digitsFrom 10 value characters = some (Nat.ofDigitChars 10 characters value) := by
  induction characters generalizing value with
  | nil => rw [digitsFrom, Nat.ofDigitChars_nil]
  | cons character rest ih =>
      obtain ⟨digit, digits⟩ := List.forall_mem_cons.mp digits
      obtain ⟨read, small⟩ := digitValue?_of_isDigit digit
      rw [digitsFrom, read]
      simp only
      rw [if_pos small, ih digits, Nat.ofDigitChars_cons, Nat.mul_comm]
      rfl

theorem digits?_toDigits (number : Nat) : digits? 10 (Nat.toDigits 10 number) = some number := by
  have digits : ∀ character ∈ Nat.toDigits 10 number, character.isDigit = true := fun _ member =>
    Nat.isDigit_of_mem_toDigits (by decide) (by decide) member
  have some_ : (Nat.toDigits 10 number).isEmpty = false := by simp
  rw [digits?, some_, digitsFrom_of_isDigit digits, Nat.ofDigitChars_ten_toDigits]
  rfl

theorem not_isBlank_of_isDigit {character : Char} (digit : character.isDigit = true) :
    isBlank character = false := by
  have range := toNat_of_isDigit digit
  simp only [isBlank, Bool.or_eq_false_iff, Bool.and_eq_false_iff, decide_eq_false_iff_not,
    beq_eq_false_iff_ne]
  omega

theorem trim_of_unblank {text : String}
    (unblank : ∀ character ∈ text.toList, isBlank character = false) : trim text = text := by
  have front : text.toList.dropWhile isBlank = text.toList := by
    cases shape : text.toList with
    | nil => rfl
    | cons character rest =>
        rw [shape] at unblank
        rw [List.dropWhile_cons_of_neg]
        simpa using unblank character List.mem_cons_self
  have back : text.toList.reverse.dropWhile isBlank = text.toList.reverse := by
    cases shape : text.toList.reverse with
    | nil => rfl
    | cons character rest =>
        have member : character ∈ text.toList := by
          rw [← List.mem_reverse, shape]
          exact List.mem_cons_self
        rw [List.dropWhile_cons_of_neg]
        simpa using unblank character member
  rw [trim, trimChars, front, trimEndChars, back, List.reverse_reverse, String.ofList_toList]

end Text

namespace Marker

theorem toList_text (marker : Int) :
    (text marker).toList = if 0 ≤ marker then Nat.toDigits 10 marker.toNat
      else '-' :: Nat.toDigits 10 (-marker).toNat := by
  rw [text, Int.toString_eq_repr, Int.repr_eq_if]
  split
  · exact Nat.toList_repr
  · rw [String.toList_append, Nat.toList_repr]
    rfl

theorem unblank_text (marker : Int) (character : Char) (member : character ∈ (text marker).toList) :
    Text.isBlank character = false := by
  have digit : ∀ number, character ∈ Nat.toDigits 10 number → Text.isBlank character = false :=
    fun _ member =>
      Text.not_isBlank_of_isDigit (Nat.isDigit_of_mem_toDigits (by decide) (by decide) member)
  rw [toList_text] at member
  split at member
  · exact digit _ member
  · rcases List.mem_cons.mp member with rfl | member
    · decide
    · exact digit _ member

theorem signed?_of_digits {least greatest : Int} {text : String} {number : Nat}
    (shape : text.toList = Nat.toDigits 10 number) :
    Text.signed? least greatest text =
      if least ≤ (number : Int) ∧ (number : Int) ≤ greatest then some (number : Int) else none := by
  have unsigned : ∀ sign rest, sign.isDigit = false → Nat.toDigits 10 number ≠ sign :: rest := by
    intro sign rest undigit same
    have digit : sign.isDigit = true :=
      Nat.isDigit_of_mem_toDigits (b := 10) (n := number) (by decide) (by decide)
        (same ▸ List.mem_cons_self)
    rw [undigit] at digit
    cases digit
  rw [Text.signed?, shape]
  split
  next rest same => exact absurd same (unsigned '-' rest (by decide))
  next rest same => exact absurd same (unsigned '+' rest (by decide))
  · rw [Text.digits?_toDigits]
    rfl

theorem signed?_text {least greatest : Int} (marker : Int) :
    Text.signed? least greatest (text marker) =
      if least ≤ marker ∧ marker ≤ greatest then some marker else none := by
  have shape := toList_text marker
  split at shape
  next positive =>
    rw [signed?_of_digits shape, Int.toNat_of_nonneg positive]
  next negative =>
    have back : -((-marker).toNat : Int) = marker := by omega
    rw [Text.signed?, shape]
    simp only
    rw [Text.digits?_toDigits]
    change (if least ≤ -((-marker).toNat : Int) ∧ -((-marker).toNat : Int) ≤ greatest then
      some (-((-marker).toNat : Int)) else none) = _
    rw [back]

theorem ofText?_text {marker : Int} (above : least ≤ marker) (below : marker ≤ greatest) :
    ofText? (text marker) = some marker := by
  rw [ofText?, Text.trim_of_unblank (unblank_text marker), signed?_text, if_pos ⟨above, below⟩]

/-! ## What a bump writes -/

theorem lt_next {now present : Int} (below : next now (some present) < greatest) :
    present < next now (some present) := by
  rw [next] at below ⊢
  split
  next behind =>
    rw [if_pos behind] at below
    rcases Int.lt_or_le (present + 1) greatest with room | full
    · rw [Int.min_eq_left (Int.le_of_lt room)]
      exact Int.lt_succ present
    · rw [Int.min_eq_right full] at below
      exact absurd below (Int.lt_irrefl greatest)
  next ahead => exact Int.not_le.mp ahead

/-- A bump writes no marker before the time, as long as there is one beyond the present one. -/
theorem le_next {now : Int} {current : Option Int}
    (room : ∀ present, current = some present → present < greatest) : now ≤ next now current := by
  cases current with
  | none => exact Int.le_refl now
  | some present =>
      rw [next]
      split
      next behind =>
        have above : now ≤ present + 1 := Int.le_trans behind (Int.le_of_lt (Int.lt_succ present))
        exact Int.le_min.mpr ⟨above, Int.le_trans behind (Int.le_of_lt (room present rfl))⟩
      next => exact Int.le_refl now

end Marker

namespace Signal

variable {signal : Signal} {cache : CacheAccess} {instant : Nat}

def underKey (signal : Signal) (cache : CacheAccess) : Option CacheEntry :=
  cache.memory.entries.get? (cache.memory.keyOf signal.scope signal.key)

/-- The marker that stands under the key. -/
def stored (signal : Signal) (cache : CacheAccess) : Option Marker :=
  (signal.underKey cache).bind fun entry => Marker.ofText? entry.value

theorem read_cases (instant : Nat)
    (kept : ∀ entry, signal.underKey cache = some entry → entry.expiresAt = none) :
    (signal.read cache instant).1 = cache ∧
      ((∃ error, (signal.read cache instant).2 = .error (.cache error)) ∨
        (signal.read cache instant).2 =
          interpret ((signal.underKey cache).map CacheEntry.value)) := by
  have found : cache.memory.entries.get? (cache.memory.keyOf signal.scope signal.key) =
      signal.underKey cache := rfl
  rw [read, CacheAccess.get, CacheAccess.call]
  cases cache.refused? with
  | some error => exact ⟨rfl, .inl ⟨error, rfl⟩⟩
  | none =>
      simp only [Cache.get, Cache.peek]
      rw [found]
      cases under : signal.underKey cache with
      | none => exact ⟨rfl, .inr rfl⟩
      | some entry =>
          have lasting : entry.isExpired instant = false := by
            rw [CacheEntry.isExpired, kept entry under]
          simp only [lasting, Bool.false_eq_true, if_false]
          exact ⟨trivial, .inr rfl⟩

theorem current_interpret (value : Option String) :
    current (interpret value) = .ok (value.bind Marker.ofText?) := by
  cases value with
  | none => rfl
  | some text =>
      rw [interpret, Option.bind_some]
      split
      next marker meant => rw [meant]; rfl
      next unmeant => rw [unmeant]; rfl

theorem write_cases (signal : Signal) (cache : CacheAccess) (instant : Nat) (marker : Marker) :
    (∃ error, signal.write cache instant marker = (cache, .error (.cache error))) ∨
      ∃ after, signal.write cache instant marker = (after, .ok marker) ∧
        signal.underKey after = some { value := marker.text } := by
  rw [write, CacheAccess.set, CacheAccess.call]
  cases cache.refused? with
  | some error => exact .inl ⟨error, rfl⟩
  | none =>
      refine .inr ⟨_, rfl, ?_⟩
      rw [underKey]
      simp [Cache.set, Cache.keyOf]

theorem bump_eq {present : Option Marker} {time : Marker}
    (known : current (signal.read cache instant).2 = .ok present) :
    signal.bump cache instant time =
      signal.write (signal.read cache instant).1 instant (Marker.next time present) := by
  rw [bump]
  simp only [known]

end Signal

end RoleGrants
