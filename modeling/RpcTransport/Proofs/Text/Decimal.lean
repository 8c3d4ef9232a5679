import Mathlib.Algebra.Group.Nat.Defs
import RpcTransport.Text.Decimal

/-! # Spellings of a number

A number is read from its decimal form, also behind any number of zeros, and from no other
text. What a port, a scope or an octet accepts follows from this. How large a number can be
follows from how many digits it has.
-/

namespace RpcTransport.Decimal

/-- The decimal form of a number, perhaps behind zeros. -/
def Spells (text : List Char) (number : Nat) : Prop :=
  ∃ zeros, text = List.replicate zeros '0' ++ Nat.toDigits 10 number

namespace Spells

variable {text : List Char} {number : Nat}

theorem toDigits (number : Nat) : Spells (Nat.toDigits 10 number) number :=
  ⟨0, rfl⟩

theorem zero_cons (spells : Spells text number) : Spells ('0' :: text) number := by
  obtain ⟨zeros, rfl⟩ := spells
  exact ⟨zeros + 1, rfl⟩

theorem isDigit (spells : Spells text number) : ∀ c ∈ text, c.isDigit = true := by
  obtain ⟨zeros, rfl⟩ := spells
  intro c member
  rcases List.mem_append.mp member with padding | digits
  · rw [List.eq_of_mem_replicate padding]
    rfl
  · exact Nat.isDigit_of_mem_toDigits (by omega) (by omega) digits

theorem not_mem (spells : Spells text number) {separator : Char}
    (other : separator.isDigit = false) : separator ∉ text := by
  intro member
  rw [spells.isDigit separator member] at other
  cases other

theorem ne_nil (spells : Spells text number) : text ≠ [] := by
  obtain ⟨zeros, rfl⟩ := spells
  exact fun empty => Nat.toDigits_ne_nil (List.append_eq_nil_iff.mp empty).2

theorem eq_of_length {other : List Char} (spells : Spells text number)
    (others : Spells other number) (same : text.length = other.length) : text = other := by
  obtain ⟨zeros, rfl⟩ := spells
  obtain ⟨padding, rfl⟩ := others
  rw [List.length_append, List.length_append, List.length_replicate, List.length_replicate] at same
  rw [Nat.add_right_cancel same]

theorem length_le (spells : Spells text number) :
    (Nat.toDigits 10 number).length ≤ text.length := by
  obtain ⟨zeros, rfl⟩ := spells
  simp

end Spells

theorem bounds_of_isDigit {c : Char} (digit : c.isDigit = true) :
    48 ≤ c.toNat ∧ c.toNat ≤ 57 := by
  simp only [Char.isDigit, Bool.and_eq_true, decide_eq_true_eq, ge_iff_le] at digit
  exact ⟨UInt32.le_iff_toNat_le.mp digit.1, UInt32.le_iff_toNat_le.mp digit.2⟩

theorem digit?_eq_some_iff {c : Char} {d : Nat} :
    digit? c = some d ↔ d < 10 ∧ c = Nat.digitChar d := by
  constructor
  · intro read
    rw [digit?] at read
    split at read
    · next digit =>
        obtain ⟨low, high⟩ := bounds_of_isDigit digit
        simp only [Option.some.injEq, Char.reduceToNat] at read
        have small : d < 10 := by omega
        refine ⟨small, Char.toNat_inj.mp ?_⟩
        rw [Nat.toNat_digitChar_of_lt_ten small]
        omega
    · cases read
  · rintro ⟨small, rfl⟩
    rw [digit?, if_pos (by simpa [Nat.isDigit_digitChar] using small)]
    exact congrArg some (Nat.toNat_digitChar_sub_48_of_lt_ten small)

/-- Behind a number that is not zero, every digit read is one more of its decimal form. -/
theorem toDigits_of_readOnto {text : List Char} {value number : Nat} (positive : 0 < value)
    (read : readOnto value text = some number) :
    Nat.toDigits 10 value ++ text = Nat.toDigits 10 number := by
  induction text generalizing value with
  | nil =>
      cases read
      exact List.append_nil _
  | cons c rest ih =>
      rw [readOnto] at read
      split at read
      · next d digit =>
          obtain ⟨small, rfl⟩ := digit?_eq_some_iff.mp digit
          calc Nat.toDigits 10 value ++ Nat.digitChar d :: rest
              = (Nat.toDigits 10 value ++ Nat.toDigits 10 d) ++ rest := by
                rw [Nat.toDigits_of_lt_base small, List.append_assoc, List.singleton_append]
            _ = Nat.toDigits 10 (value * 10 + d) ++ rest := by
                rw [Nat.toDigits_append_toDigits (by omega) positive small, Nat.mul_comm]
            _ = Nat.toDigits 10 number := ih (by omega) read
      · cases read

theorem spells_of_readOnto {text : List Char} {number : Nat} (nonempty : text ≠ [])
    (read : readOnto 0 text = some number) : Spells text number := by
  induction text with
  | nil => exact absurd rfl nonempty
  | cons c rest ih =>
      have behind := read
      rw [readOnto] at behind
      split at behind
      · next d digit =>
          obtain ⟨small, rfl⟩ := digit?_eq_some_iff.mp digit
          rw [Nat.zero_mul, Nat.zero_add] at behind
          rcases Nat.eq_zero_or_pos d with rfl | positive
          · cases rest with
            | nil =>
                cases behind
                exact .toDigits 0
            | cons next rest => exact (ih (List.cons_ne_nil next rest) behind).zero_cons
          · refine ⟨0, ?_⟩
            have form := toDigits_of_readOnto positive behind
            rwa [Nat.toDigits_of_lt_base small, List.singleton_append] at form
      · cases behind

theorem readOnto_of_digits {digits : List Char} (all : ∀ c ∈ digits, c.isDigit = true)
    (value : Nat) : readOnto value digits = some (Nat.ofDigitChars 10 digits value) := by
  induction digits generalizing value with
  | nil => rfl
  | cons c rest ih =>
      rw [readOnto, digit?, if_pos (all c List.mem_cons_self), Nat.ofDigitChars_cons,
        Nat.mul_comm]
      exact ih (fun other member => all other (List.mem_cons_of_mem c member)) _

theorem readOnto_of_spells {text : List Char} {number : Nat} (spells : Spells text number) :
    readOnto 0 text = some number := by
  rw [readOnto_of_digits spells.isDigit]
  obtain ⟨zeros, rfl⟩ := spells
  induction zeros with
  | zero => exact congrArg some Nat.ofDigitChars_ten_toDigits
  | succ zeros ih => simpa [List.replicate_succ, Nat.ofDigitChars_cons] using ih

theorem Spells.unique {text : List Char} {number other : Nat} (spells : Spells text number)
    (others : Spells text other) : number = other :=
  Option.some.inj ((readOnto_of_spells spells).symm.trans (readOnto_of_spells others))

theorem spells_toString (number : Nat) : Spells (toString number).toList number := by
  rw [Nat.toString_eq_repr, Nat.toList_repr]
  exact .toDigits number

theorem readNat?_eq_some_iff {text : List Char} {number : Nat} :
    readNat? text = some number ↔ Spells text number := by
  cases text with
  | nil => exact ⟨fun absent => (nomatch absent), fun spells => absurd rfl spells.ne_nil⟩
  | cons c rest => exact ⟨spells_of_readOnto (List.cons_ne_nil c rest), readOnto_of_spells⟩

theorem toDigits_ne_zero_cons (number : Nat) (c : Char) (rest : List Char) :
    Nat.toDigits 10 number ≠ '0' :: c :: rest := by
  intro form
  have read := readOnto_of_spells (.toDigits number)
  rw [form] at read
  have shorter := spells_of_readOnto (List.cons_ne_nil c rest) read
  have length := shorter.length_le
  rw [form, List.length_cons] at length
  omega

theorem splitBase_toDigits (number : Nat) :
    splitBase (Nat.toDigits 10 number) = (10, Nat.toDigits 10 number) := by
  rw [splitBase.eq_def]
  split
  · next form => exact absurd form (toDigits_ne_zero_cons number 'x' _)
  · next form => exact absurd form (toDigits_ne_zero_cons number 'X' _)
  · next form => exact absurd form (toDigits_ne_zero_cons number _ _)
  · rfl

theorem readBelow?_eq_some_iff {bound number : Nat} {text : List Char} :
    readBelow? bound text = some number ↔ Spells text number ∧ number < bound := by
  rw [readBelow?, Option.filter_eq_some_iff, readNat?_eq_some_iff, decide_eq_true_eq]

theorem readPort?_eq_some_iff {text : List Char} {port : UInt16} :
    readPort? text = some port ↔ Spells text port.toNat := by
  simp only [readPort?, Option.map_eq_some_iff, readBelow?_eq_some_iff]
  constructor
  · rintro ⟨number, ⟨spells, small⟩, rfl⟩
    rwa [UInt16.toNat_ofNat_of_lt' small]
  · exact fun spells => ⟨port.toNat, ⟨spells, port.toNat_lt⟩, UInt16.ofNat_toNat⟩

theorem readSignedPort?_of_unsigned {text : List Char} (unsigned : text.head? ≠ some '+') :
    readSignedPort? text = readPort? text := by
  cases text with
  | nil => rfl
  | cons c rest =>
      have digit : c ≠ '+' := fun same => unsigned (congrArg some same)
      simp [readSignedPort?, digit]

def SpellsSigned (text : List Char) (number : Nat) : Prop :=
  Spells text number ∨ ∃ digits, text = '+' :: digits ∧ Spells digits number

theorem readSignedPort?_eq_some_iff {text : List Char} {port : UInt16} :
    readSignedPort? text = some port ↔ SpellsSigned text port.toNat := by
  by_cases sign : text.head? = some '+'
  · obtain ⟨digits, rfl⟩ := List.head?_eq_some_iff.mp sign
    have unspelt : ¬ Spells ('+' :: digits) port.toNat :=
      fun spells => spells.not_mem rfl List.mem_cons_self
    simp [readSignedPort?, readPort?_eq_some_iff, SpellsSigned, unspelt]
  · have unsigned : ∀ digits, text ≠ '+' :: digits :=
      fun digits same => sign (congrArg List.head? same)
    simp [readSignedPort?_of_unsigned sign, readPort?_eq_some_iff, SpellsSigned, unsigned]

theorem Spells.readSignedPort? {text : List Char} {port : UInt16}
    (spells : Spells text port.toNat) : readSignedPort? text = some port := by
  rw [readSignedPort?_of_unsigned, readPort?_eq_some_iff]
  · exact spells
  · have absent : '+' ∉ text := spells.not_mem rfl
    exact fun sign => absent (List.mem_of_head? sign)

theorem addDigit?_ten (value : Nat) (c : Char) :
    addDigit? 10 value c = (digit? c).map fun d => value * 10 + d := by
  rw [addDigit?, hexDigit?, digit?]
  by_cases digit : c.isDigit = true
  · have bounds := bounds_of_isDigit digit
    have small : c.toNat - '0'.toNat < 10 := by
      simp only [Char.reduceToNat]
      omega
    rw [if_pos digit, Option.bind_some, if_pos small, if_pos digit]
    rfl
  -- a letter stands for ten or more
  · rw [if_neg digit, if_neg digit]
    split
    · rw [Option.bind_some, if_neg (by omega), Option.map_none]
    · split
      · rw [Option.bind_some, if_neg (by omega), Option.map_none]
      · rfl

theorem readDigits?_ten (digits : List Char) : readDigits? 10 digits = readOnto 0 digits := by
  have onto : ∀ value, digits.foldlM (addDigit? 10) value = readOnto value digits := by
    induction digits with
    | nil => exact fun value => rfl
    | cons c rest ih =>
        intro value
        rw [List.foldlM_cons, addDigit?_ten, readOnto]
        cases digit? c with
        | none => rfl
        | some d => exact ih (value * 10 + d)
  exact onto 0

theorem hexDigit?_of_readDigits? {base number : Nat} {digits : List Char}
    (read : readDigits? base digits = some number) :
    ∀ c ∈ digits, ∃ d, hexDigit? c = some d ∧ d < base := by
  have onto : ∀ value, digits.foldlM (addDigit? base) value = some number →
      ∀ c ∈ digits, ∃ d, hexDigit? c = some d ∧ d < base := by
    clear read
    induction digits with
    | nil => simp
    | cons c rest ih =>
        intro value read
        simp only [List.foldlM_cons, bind, addDigit?, Option.bind_eq_some_iff] at read
        obtain ⟨next, ⟨d, digit, step⟩, later⟩ := read
        split at step
        · next small => exact List.forall_mem_cons.mpr ⟨⟨d, digit, small⟩, ih next later⟩
        · cases step
  exact onto 0 read

theorem isDigit_of_hexDigit? {c : Char} {d : Nat} (digit : hexDigit? c = some d)
    (small : d < 10) : c.isDigit = true := by
  rw [hexDigit?] at digit
  split at digit
  · assumption
  · split at digit
    · cases digit
      omega
    · split at digit
      · cases digit
        omega
      · cases digit

theorem foldl_digits_lt {base : Nat} {digits : List Nat} (small : ∀ d ∈ digits, d < base)
    (value : Nat) : digits.foldl (fun value d => value * base + d) value <
      (value + 1) * base ^ digits.length := by
  induction digits generalizing value with
  | nil => simp
  | cons d rest ih =>
      obtain ⟨first, others⟩ := List.forall_mem_cons.mp small
      have next : value * base + d + 1 ≤ (value + 1) * base := by
        rw [Nat.add_one_mul]
        omega
      calc rest.foldl (fun value d => value * base + d) (value * base + d)
          < (value * base + d + 1) * base ^ rest.length := ih others _
        _ ≤ (value + 1) * base * base ^ rest.length := Nat.mul_le_mul_right _ next
        _ = (value + 1) * base ^ (d :: rest).length := by
            rw [List.length_cons, Nat.pow_succ', Nat.mul_assoc]

theorem readBase_lt_pow {base : Nat} {digits : List Nat} (small : ∀ d ∈ digits, d < base) :
    readBase base digits < base ^ digits.length := by
  simpa [readBase] using foldl_digits_lt small 0

end RpcTransport.Decimal
