import RpcTransport.Proofs.Address.IpLiteral
import RpcTransport.Url.Domain

/-! # Plain hosts

The hosts that need no mapping, decoding or composing: names whose labels are written in
letters, digits, hyphens and underscores, and IPv4 addresses in their canonical form. A name
does not end in a number, or it would have to be an address. Every URL can have these hosts.
-/

namespace RpcTransport.Url

def isNameChar (c : Char) : Bool :=
  c.isAlphanum || c == '-' || c == '_'

def isHostChar (c : Char) : Bool :=
  isNameChar c || c == '.'

/-- A label of a plain name; it is not the ASCII form of another label. -/
structure PlainLabel (label : List Char) : Prop where
  characters : ∀ c ∈ label, isNameChar c = true
  unencoded : ¬ ['x', 'n', '-', '-'] <+: label.map Char.toLower

/-- A label that is a number: decimal, or hexadecimal behind `0x`. -/
inductive NumberLabel : List Char → Prop where
  | decimal {label : List Char} (digits : ∀ c ∈ label, c.isDigit = true) : NumberLabel label
  | hexadecimal {x : Char} {digits : List Char} (sign : x = 'x' ∨ x = 'X')
      (all : ∀ c ∈ digits, (Decimal.hexDigit? c).isSome = true) : NumberLabel ('0' :: x :: digits)

theorem not_numberLabel_cons {c : Char} (other : c.isDigit = false) (rest : List Char) :
    ¬ NumberLabel (c :: rest) := by
  intro number
  cases number with
  | decimal digits =>
      rw [digits c List.mem_cons_self] at other
      cases other
  | hexadecimal => cases other

/-- Labels with dots between them, the last one no number, perhaps with a dot behind it. -/
inductive PlainName : List Char → Prop where
  | last {label : List Char} (plain : PlainLabel label)
      (worded : ¬ NumberLabel (label.map Char.toLower)) : PlainName label
  | rooted {label : List Char} (plain : PlainLabel label)
      (worded : ¬ NumberLabel (label.map Char.toLower)) : PlainName (label ++ ['.'])
  | cons {label rest : List Char} (nonempty : label ≠ []) (plain : PlainLabel label)
      (name : PlainName rest) : PlainName (label ++ '.' :: rest)

inductive PlainHost : List Char → Prop where
  | name {host : List Char} (plain : PlainName host) : PlainHost host
  | address (ip : Ipv4) : PlainHost ip.text.toList

section Characters

theorem of_ascii {P : Char → Prop} (all : ∀ n < 128, P (Char.ofNat n)) {c : Char}
    (small : c.toNat < 128) : P c := by
  have holds := all c.toNat small
  rwa [Char.ofNat_toNat] at holds

theorem toNat_lt_of_isNameChar {c : Char} (plain : isNameChar c = true) : c.toNat < 128 := by
  have letter : c.isAlpha = (c.isUpper || c.isLower) := rfl
  have upper : c.isUpper = decide (c.val ≥ 65 ∧ c.val ≤ 90) := rfl
  have lower : c.isLower = (decide (c.val ≥ 97) && decide (c.val ≤ 122)) := rfl
  simp only [isNameChar, Char.isAlphanum, letter, upper, lower, Char.isDigit, Bool.or_eq_true,
    Bool.and_eq_true, decide_eq_true_eq, beq_iff_eq, ge_iff_le, UInt32.le_iff_toNat_le] at plain
  rcases plain with (((⟨-, high⟩ | ⟨-, high⟩) | ⟨-, high⟩) | rfl) | rfl
  · exact Nat.lt_of_le_of_lt high (by decide)
  · exact Nat.lt_of_le_of_lt high (by decide)
  · exact Nat.lt_of_le_of_lt high (by decide)
  · decide
  · decide

theorem ascii_of_isNameChar {c : Char} (plain : isNameChar c = true) :
    isForbiddenAscii c.toLower = false ∧ turnsName c.toLower = false ∧ c ≠ '.' := by
  have checked := of_ascii (P := fun c => isNameChar c = true →
    isForbiddenAscii c.toLower = false ∧ turnsName c.toLower = false ∧ c ≠ '.')
    (by decide +kernel) (toNat_lt_of_isNameChar plain)
  exact checked plain

/-- No character of a plain host stands for anything in a URL. -/
theorem ascii_of_isHostChar {c : Char} (plain : isHostChar c = true) :
    0x20 < c.toNat ∧ c ∉ [':', '/', '\\', '?', '#', '@', '[', ']', '%'] := by
  rcases Bool.or_eq_true_iff.mp plain with named | dot
  · have checked := of_ascii (P := fun c => isNameChar c = true →
      0x20 < c.toNat ∧ c ∉ [':', '/', '\\', '?', '#', '@', '[', ']', '%'])
      (by decide +kernel) (toNat_lt_of_isNameChar named)
    exact checked named
  · rw [beq_iff_eq.mp dot]
    decide

end Characters

namespace PlainLabel

variable {label : List Char}

theorem dot_not_mem (plain : PlainLabel label) : '.' ∉ label :=
  fun member => (ascii_of_isNameChar (plain.characters '.' member)).2.2 rfl

theorem asciiLabel?_eq (plain : PlainLabel label) :
    asciiLabel? label = some (label.map Char.toLower) := by
  have undivided : encodedPart? (label.map Char.toLower) = none := by
    rw [encodedPart?]
    cases start : dropStart? ['x', 'n', '-', '-'] (label.map Char.toLower) with
    | none => rfl
    | some rest =>
        exact absurd ⟨rest, (dropStart?_eq_some_iff.mp start).symm⟩ plain.unencoded
  have allowed : (label.map Char.toLower).any isForbiddenAscii = false := by
    rw [List.any_map, List.any_eq_false]
    intro c member
    simp [(ascii_of_isNameChar (plain.characters c member)).1]
  simp [asciiLabel?, undivided, allowed]

theorem pieceLabels?_eq (plain : PlainLabel label) :
    pieceLabels? label = some [label.map Char.toLower] := by
  have ascii : label.all (·.toNat < 0x80) = true := by
    rw [List.all_eq_true]
    intro c member
    exact decide_eq_true (toNat_lt_of_isNameChar (plain.characters c member))
  simp [pieceLabels?, ascii, plain.asciiLabel?_eq]

end PlainLabel

theorem mapM_pieceLabels? {labels : List (List Char)} (plain : ∀ label ∈ labels, PlainLabel label) :
    labels.mapM pieceLabels? = some (labels.map fun label => [label.map Char.toLower]) := by
  induction labels with
  | nil => rfl
  | cons label rest ih =>
      obtain ⟨first, others⟩ := List.forall_mem_cons.mp plain
      simp [List.mapM_cons, first.pieceLabels?_eq, ih others]

theorem domainLabels?_of_plain {name : List Char}
    (plain : ∀ label ∈ splitAll '.' name, PlainLabel label) :
    domainLabels? name = some ((splitAll '.' name).map (·.map Char.toLower)) := by
  have upright : ((splitAll '.' name).map (·.map Char.toLower)).any (·.any turnsName) = false := by
    simp only [List.any_map, List.any_eq_false, Function.comp_apply]
    intro label member
    simp only [Bool.not_eq_true, List.any_eq_false]
    intro c inside
    simp [(ascii_of_isNameChar ((plain label member).characters c inside)).2.1]
  have joined : ((splitAll '.' name).map fun label => [label.map Char.toLower]).flatten =
      (splitAll '.' name).map (·.map Char.toLower) := by
    rw [← List.flatMap_def, List.map_eq_flatMap]
  simp [domainLabels?, mapM_pieceLabels? plain, joined, upright]

section Numbers

theorem numberLabel_of_labelNumber? {label : List Char} {number : Nat}
    (read : labelNumber? label = some number) : NumberLabel label := by
  have decimal {base : Nat} {digits : List Char} (small : base ≤ 10)
      (read : Decimal.readDigits? base digits = some number) :
      ∀ c ∈ digits, c.isDigit = true := by
    intro c member
    obtain ⟨d, digit, below⟩ := Decimal.hexDigit?_of_readDigits? read c member
    exact Decimal.isDigit_of_hexDigit? digit (by omega)
  have hexadecimal {digits : List Char} (read : Decimal.readDigits? 16 digits = some number) :
      ∀ c ∈ digits, (Decimal.hexDigit? c).isSome = true := by
    intro c member
    obtain ⟨d, digit, -⟩ := Decimal.hexDigit?_of_readDigits? read c member
    rw [digit, Option.isSome_some]
  simp only [labelNumber?, Decimal.splitBase, Option.ite_none_left_eq_some] at read
  obtain ⟨-, read⟩ := read
  split at read
  · exact .hexadecimal (.inl rfl) (hexadecimal read)
  · exact .hexadecimal (.inr rfl) (hexadecimal read)
  -- an octal label is a decimal one, too
  · exact .decimal (List.forall_mem_cons.mpr ⟨rfl, decimal (by omega) read⟩)
  · exact .decimal (decimal (Nat.le_refl 10) read)

theorem endsInNumber_eq_false {labels : List (List Char)} {last : List Char}
    (ending : (trimmedLabels labels).getLast? = some last) (worded : ¬ NumberLabel last) :
    endsInNumber labels = false := by
  have unread : labelNumber? last = none := by
    cases read : labelNumber? last with
    | none => rfl
    | some number => exact absurd (numberLabel_of_labelNumber? read) worded
  have letters : last.all Char.isDigit = false := by
    rw [← Bool.not_eq_true, List.all_eq_true]
    exact fun digits => worded (.decimal digits)
  simp [endsInNumber, ending, unread, letters]

end Numbers

section Names

variable {name : List Char}

theorem PlainName.plain (named : PlainName name) :
    ∀ label ∈ splitAll '.' name, PlainLabel label := by
  -- the empty label behind a final dot
  have root : PlainLabel [] := ⟨by simp, by simp⟩
  induction named with
  | last plain worded =>
      rw [splitAll_of_absent plain.dot_not_mem]
      simpa using plain
  | rooted plain worded =>
      rw [splitAll_append plain.dot_not_mem]
      simpa [splitAll] using ⟨plain, root⟩
  | cons nonempty plain name ih =>
      rw [splitAll_append plain.dot_not_mem]
      exact List.forall_mem_cons.mpr ⟨plain, ih⟩

theorem getLast?_trimmedLabels_cons {label last : List Char} {labels : List (List Char)}
    (ending : (trimmedLabels labels).getLast? = some last) :
    (trimmedLabels (label :: labels)).getLast? = some last := by
  cases labels with
  | nil => simp [trimmedLabels] at ending
  | cons next labels =>
      simp only [trimmedLabels, List.getLast?_cons_cons, List.dropLast_cons_cons] at ending ⊢
      split at ending
      · next root =>
          rw [if_pos root, List.getLast?_cons, ending]
          rfl
      · next other => rw [if_neg other, List.getLast?_cons_cons, ending]

theorem PlainName.ending (named : PlainName name) :
    ∃ last, (trimmedLabels ((splitAll '.' name).map (·.map Char.toLower))).getLast? = some last ∧
      ¬ NumberLabel last := by
  induction named with
  | @last label plain worded =>
      have nonempty : label.map Char.toLower ≠ [] := by
        intro empty
        exact worded (empty ▸ .decimal (by simp))
      refine ⟨label.map Char.toLower, ?_, worded⟩
      rw [splitAll_of_absent plain.dot_not_mem]
      simp [trimmedLabels, nonempty]
  | @rooted label plain worded =>
      refine ⟨label.map Char.toLower, ?_, worded⟩
      rw [splitAll_append plain.dot_not_mem]
      simp [splitAll, trimmedLabels]
  | cons nonempty plain name ih =>
      obtain ⟨last, ending, worded⟩ := ih
      refine ⟨last, ?_, worded⟩
      rw [splitAll_append plain.dot_not_mem, List.map_cons]
      exact getLast?_trimmedLabels_cons ending

end Names

section Addresses

theorem toLower_of_isDigit {c : Char} (digit : c.isDigit = true) : c.toLower = c := by
  have bounds := Decimal.bounds_of_isDigit digit
  have checked := of_ascii (P := fun c => c.isDigit = true → c.toLower = c)
    (by decide +kernel) (c := c) (by omega)
  exact checked digit

theorem isNameChar_of_isDigit {c : Char} (digit : c.isDigit = true) : isNameChar c = true := by
  simp [isNameChar, Char.isAlphanum, digit]

theorem labelNumber?_toDigits (number : Nat) :
    labelNumber? (Nat.toDigits 10 number) = some number := by
  have spelled := Decimal.Spells.toDigits number
  simp only [labelNumber?, Decimal.splitBase_toDigits, if_neg spelled.ne_nil,
    Decimal.readDigits?_ten]
  exact Decimal.readOnto_of_spells spelled

theorem map_toLower_toDigits (number : Nat) :
    (Nat.toDigits 10 number).map Char.toLower = Nat.toDigits 10 number := by
  have unchanged : ∀ c ∈ Nat.toDigits 10 number, c.toLower = c :=
    fun c member => toLower_of_isDigit ((Decimal.Spells.toDigits number).isDigit c member)
  rw [List.map_congr_left unchanged, List.map_id']

theorem plainLabel_toDigits (number : Nat) : PlainLabel (Nat.toDigits 10 number) := by
  have spelled := Decimal.Spells.toDigits number
  refine ⟨fun c member => isNameChar_of_isDigit (spelled.isDigit c member), ?_⟩
  rw [map_toLower_toDigits]
  exact fun start => spelled.not_mem (by decide) (start.subset List.mem_cons_self)

theorem isIpv4Name_of_octets (first second third fourth : UInt8) :
    isIpv4Name [Nat.toDigits 10 first.toNat, Nat.toDigits 10 second.toNat,
      Nat.toDigits 10 third.toNat, Nat.toDigits 10 fourth.toNat] = true := by
  have filled : Nat.toDigits 10 fourth.toNat ≠ [] := Nat.toDigits_ne_nil
  have bound (octet : UInt8) : octet.toNat ≤ 255 := Nat.le_of_lt_succ octet.toNat_lt
  simp [isIpv4Name, trimmedLabels, filled, labelNumber?_toDigits, bound, fourth.toNat_lt]

end Addresses

namespace PlainHost

variable {host : List Char}

theorem labels (plain : PlainHost host) : ∀ label ∈ splitAll '.' host, PlainLabel label := by
  cases plain with
  | name plain => exact plain.plain
  | address ip =>
      rw [Ipv4.splitAll_text]
      simp [plainLabel_toDigits]

theorem characters (plain : PlainHost host) : ∀ c ∈ host, isHostChar c = true := by
  intro c member
  by_cases dot : c = '.'
  · rw [dot]
    rfl
  · obtain ⟨label, piece, inside⟩ := exists_mem_splitAll member dot
    simp [isHostChar, (plain.labels label piece).characters c inside]

/-- Every URL of a scheme with hosts takes a plain host. -/
theorem isDomain (plain : PlainHost host) : isDomain host = true := by
  have literal : '%' ∉ host := fun member => absurd (plain.characters '%' member) (by decide)
  have taken : (decodeHost? host).bind domainLabels? =
      some ((splitAll '.' host).map (·.map Char.toLower)) := by
    rw [decodeHost?, if_neg literal, Option.bind_some, domainLabels?_of_plain plain.labels]
  rw [Url.isDomain, taken]
  cases plain with
  | name plain =>
      obtain ⟨last, ending, worded⟩ := plain.ending
      have nonempty : (splitAll '.' host).map (·.map Char.toLower) ≠ [[]] := by
        intro empty
        rw [empty] at ending
        cases ending
      simp [nonempty, endsInNumber_eq_false ending worded]
  | address ip =>
      simp [Ipv4.splitAll_text, map_toLower_toDigits, isIpv4Name_of_octets]

theorem ne_nil (plain : PlainHost host) : host ≠ [] := by
  rintro rfl
  cases plain.isDomain

end PlainHost

end RpcTransport.Url
