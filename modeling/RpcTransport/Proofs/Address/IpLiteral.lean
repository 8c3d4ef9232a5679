import RpcTransport.Proofs.Address.SocketText
import RpcTransport.Proofs.Text.Decimal

/-! # IP literals

The texts that stand for an IP address, as a grammar. An IPv4 address has one text, its
canonical one. An IPv6 address has many: its groups may have leading zeros and digits of
either case, any run of zero groups may be left out at `::`, and the last two groups may be
written as an IPv4 address. Reading accepts these texts and no others.
-/

namespace RpcTransport

theorem allSome_cons_eq_some_iff {α : Type} {option : Option α} {options : List (Option α)}
    {values : List α} : allSome (option :: options) = some values ↔
      ∃ value rest, option = some value ∧ allSome options = some rest ∧ value :: rest = values := by
  cases option with
  | none => simp [allSome]
  | some value =>
      simp only [allSome, Option.map_eq_some_iff, Option.some.injEq]
      constructor
      · rintro ⟨rest, read, rfl⟩
        exact ⟨value, rest, rfl, read, rfl⟩
      · rintro ⟨_, rest, rfl, read, rfl⟩
        exact ⟨rest, read, rfl⟩

theorem allSome_eq_some_iff {α : Type} {options : List (Option α)} {values : List α} :
    allSome options = some values ↔ options = values.map some := by
  induction options generalizing values with
  | nil => cases values <;> simp [allSome]
  | cons option options ih =>
      rw [allSome_cons_eq_some_iff]
      constructor
      · rintro ⟨value, rest, rfl, read, rfl⟩
        exact congrArg (some value :: ·) (ih.mp read)
      · intro same
        obtain ⟨value, rest, rfl, first, others⟩ := List.map_eq_cons_iff.mp same.symm
        exact ⟨value, rest, first.symm, ih.mpr others.symm, rfl⟩

namespace Ipv4

theorem readOctet?_eq_some_iff {text : List Char} {octet : UInt8} :
    readOctet? text = some octet ↔ text = Nat.toDigits 10 octet.toNat := by
  constructor
  · intro read
    rw [readOctet?.eq_def] at read
    split at read
    · cases read
    · next single =>
        obtain ⟨number, below, rfl⟩ := Option.map_eq_some_iff.mp read
        obtain ⟨⟨zeros, rfl⟩, small⟩ := Decimal.readBelow?_eq_some_iff.mp below
        rw [UInt8.toNat_ofNat_of_lt' small]
        cases zeros with
        | zero => rfl
        | succ zeros =>
            have shorter : Decimal.Spells
                (List.replicate zeros '0' ++ Nat.toDigits 10 number) number := ⟨zeros, rfl⟩
            obtain ⟨c, rest, form⟩ := List.exists_cons_of_ne_nil shorter.ne_nil
            exact absurd (congrArg ('0' :: ·) form) (single c rest)
  · rintro rfl
    rw [readOctet?.eq_def]
    split
    · next c rest form => exact absurd form (Decimal.toDigits_ne_zero_cons octet.toNat c rest)
    · rw [Decimal.readBelow?_eq_some_iff.mpr ⟨.toDigits octet.toNat, UInt8.toNat_lt octet⟩]
      exact congrArg some UInt8.ofNat_toNat

theorem toList_text (ip : Ipv4) : ip.text.toList =
    List.intercalate ['.'] [Nat.toDigits 10 ip.first.toNat, Nat.toDigits 10 ip.second.toNat,
      Nat.toDigits 10 ip.third.toNat, Nat.toDigits 10 ip.fourth.toNat] := by
  have dot : (toString ".").toList = ['.'] := rfl
  simp [text, List.intercalate, dot]

theorem splitAll_text (ip : Ipv4) : splitAll '.' ip.text.toList =
    [Nat.toDigits 10 ip.first.toNat, Nat.toDigits 10 ip.second.toNat,
      Nat.toDigits 10 ip.third.toNat, Nat.toDigits 10 ip.fourth.toNat] := by
  have octet (number : Nat) : '.' ∉ Nat.toDigits 10 number :=
    Decimal.Spells.not_mem (.toDigits number) rfl
  simp only [toList_text, List.intercalate_cons_cons, List.intercalate_singleton,
    List.append_assoc, List.singleton_append, splitAll_append (octet _),
    splitAll_of_absent (octet _)]

/-- An IPv4 address is read from its canonical text only. -/
theorem read?_eq_some_iff {text : List Char} {ip : Ipv4} :
    read? text = some ip ↔ text = ip.text.toList := by
  constructor
  · intro read
    rw [read?] at read
    split at read
    · next a b c d pieces =>
        simp only [bind, pure, Option.bind_eq_some_iff, Option.some.injEq] at read
        obtain ⟨first, firstRead, second, secondRead, third, thirdRead, fourth, fourthRead,
          rfl⟩ := read
        have joined : List.intercalate ['.'] (splitAll '.' text) = text :=
          intercalate_splitAll text
        rw [toList_text, ← joined, pieces,
          readOctet?_eq_some_iff.mp firstRead, readOctet?_eq_some_iff.mp secondRead,
          readOctet?_eq_some_iff.mp thirdRead, readOctet?_eq_some_iff.mp fourthRead]
    · cases read
  · rintro rfl
    simp only [read?, splitAll_text, readOctet?_eq_some_iff.mpr rfl]
    rfl

theorem dot_mem_text (ip : Ipv4) : '.' ∈ ip.text.toList := by
  simp [toList_text, List.intercalate_cons_cons]

end Ipv4

namespace Ipv6

structure GroupText (text : List Char) (group : UInt16) : Prop where
  nonempty : text ≠ []
  short : text.length ≤ 4
  value : ∃ digits, text.map Decimal.hexDigit? = digits.map some ∧
    Decimal.readBase 16 digits = group.toNat

/-- Groups with colons between them; in a mixed text the last two may be an IPv4 address. -/
inductive GroupsText (mixed : Bool) : List Char → List UInt16 → Prop where
  | single {text : List Char} {group : UInt16} (last : GroupText text group) :
      GroupsText mixed text [group]
  | embedded (ip : Ipv4) (allowed : mixed = true) :
      GroupsText mixed ip.text.toList (ofIpv4 ip)
  | cons {text others : List Char} {group : UInt16} {groups : List UInt16}
      (first : GroupText text group) (rest : GroupsText mixed others groups) :
      GroupsText mixed (text ++ ':' :: others) (group :: groups)

def SideText (mixed : Bool) (text : List Char) (groups : List UInt16) : Prop :=
  text = [] ∧ groups = [] ∨ GroupsText mixed text groups

inductive Literal : List Char → Ipv6 → Prop where
  | full {text : List Char} {ip : Ipv6} (groups : GroupsText true text ip.groups) :
      Literal text ip
  | compressed {head tail : List Char} {front back : List UInt16} {ip : Ipv6} {zeros : Nat}
      (before : SideText false head front) (behind : SideText true tail back)
      (some : 0 < zeros) (groups : ip.groups = front ++ List.replicate zeros 0 ++ back) :
      Literal (head ++ ':' :: ':' :: tail) ip

section Characters

variable {text : List Char} {separator : Char}

theorem GroupText.not_mem {group : UInt16} (written : GroupText text group)
    (other : Decimal.hexDigit? separator = none) : separator ∉ text := by
  intro member
  obtain ⟨digits, each, -⟩ := written.value
  have digit : Decimal.hexDigit? separator ∈ digits.map some :=
    each ▸ List.mem_map_of_mem member
  simp [other] at digit

theorem GroupsText.not_mem {mixed : Bool} {groups : List UInt16}
    (written : GroupsText mixed text groups) (other : Decimal.hexDigit? separator = none)
    (colon : separator ≠ ':') (dot : separator ≠ '.')
    (apart : ∀ digit, Nat.digitChar digit ≠ separator) : separator ∉ text := by
  induction written with
  | single last => exact last.not_mem other
  | embedded ip allowed => exact ip.not_mem_text dot apart
  | cons first rest ih => simp [first.not_mem other, colon, ih]

theorem GroupsText.exists_cons {mixed : Bool} {groups : List UInt16}
    (written : GroupsText mixed text groups) : ∃ c rest, text = c :: rest ∧ c ≠ ':' := by
  have start {text : List Char} (nonempty : text ≠ []) (absent : ':' ∉ text) :
      ∃ c rest, text = c :: rest ∧ c ≠ ':' := by
    obtain ⟨c, rest, rfl⟩ := List.exists_cons_of_ne_nil nonempty
    exact ⟨c, rest, rfl, (List.ne_of_not_mem_cons absent).symm⟩
  cases written with
  | single last => exact start last.nonempty (last.not_mem rfl)
  | embedded ip allowed =>
      exact start (List.ne_nil_of_mem ip.dot_mem_text) (ip.not_mem_text (by decide) (by simp))
  | cons first rest =>
      obtain ⟨c, rest, rfl, other⟩ := start first.nonempty (first.not_mem rfl)
      exact ⟨c, _, rfl, other⟩

theorem GroupsText.splitWord?_append {mixed : Bool} {groups : List UInt16}
    (written : GroupsText mixed text groups) (rest : List Char) :
    splitWord? [':', ':'] (text ++ rest) =
      (splitWord? [':', ':'] rest).map fun (before, behind) => (text ++ before, behind) := by
  induction written with
  | single last => exact RpcTransport.splitWord?_append (last.not_mem rfl) rest
  | embedded ip allowed =>
      exact RpcTransport.splitWord?_append (ip.not_mem_text (by decide) (by simp)) rest
  | cons first others ih =>
      obtain ⟨c, behind, rfl, other⟩ := others.exists_cons
      have passed : splitWord? [':', ':'] (':' :: (c :: behind ++ rest)) =
          (splitWord? [':', ':'] (c :: behind ++ rest)).map
            fun (before, behind) => (':' :: before, behind) := by
        simp [splitWord?, dropStart?, other.symm]
      rw [List.append_assoc, RpcTransport.splitWord?_append (first.not_mem rfl), List.cons_append,
        passed, ih, Option.map_map, Option.map_map]
      simp only [Function.comp_def, List.append_assoc, List.cons_append]

theorem SideText.not_mem {mixed : Bool} {groups : List UInt16}
    (written : SideText mixed text groups) (other : Decimal.hexDigit? separator = none)
    (colon : separator ≠ ':') (dot : separator ≠ '.')
    (apart : ∀ digit, Nat.digitChar digit ≠ separator) : separator ∉ text := by
  rcases written with ⟨rfl, -⟩ | written
  · exact List.not_mem_nil
  · exact written.not_mem other colon dot apart

theorem Literal.not_mem {ip : Ipv6} (literal : Literal text ip)
    (other : Decimal.hexDigit? separator = none) (colon : separator ≠ ':')
    (dot : separator ≠ '.') (apart : ∀ digit, Nat.digitChar digit ≠ separator) :
    separator ∉ text := by
  cases literal with
  | full written => exact written.not_mem other colon dot apart
  | compressed before behind =>
      simp [before.not_mem other colon dot apart, behind.not_mem other colon dot apart, colon]

end Characters

section Groups

variable {text : List Char}

theorem hexDigit?_lt {c : Char} {d : Nat} (read : Decimal.hexDigit? c = some d) : d < 16 := by
  simp only [Decimal.hexDigit?, Char.reduceToNat] at read
  split at read
  · next digit =>
      have bounds := Decimal.bounds_of_isDigit digit
      cases read
      omega
  · split at read
    · next letter =>
        have bound : c.toNat ≤ 102 := UInt32.le_iff_toNat_le.mp letter.2
        cases read
        omega
    · split at read
      · next letter =>
          have bound : c.toNat ≤ 70 := UInt32.le_iff_toNat_le.mp letter.2
          cases read
          omega
      · cases read

theorem readBase_lt {digits : List Nat} (short : digits.length ≤ 4)
    (small : ∀ d ∈ digits, d < 16) : Decimal.readBase 16 digits < 65536 :=
  calc Decimal.readBase 16 digits
      < 16 ^ digits.length := Decimal.readBase_lt_pow small
    _ ≤ 16 ^ 4 := Nat.pow_le_pow_right (by decide) short

theorem readGroup?_eq_some_iff {group : UInt16} :
    readGroup? text = some group ↔ GroupText text group := by
  rw [readGroup?]
  constructor
  · intro read
    split at read
    · cases read
    · next length =>
        obtain ⟨digits, each, rfl⟩ := Option.map_eq_some_iff.mp read
        have each := allSome_eq_some_iff.mp each
        have small : ∀ d ∈ digits, d < 16 := by
          intro d member
          have digit : some d ∈ text.map Decimal.hexDigit? := each ▸ List.mem_map_of_mem member
          obtain ⟨c, -, read⟩ := List.mem_map.mp digit
          exact hexDigit?_lt read
        have count : digits.length = text.length := by
          simpa using (congrArg List.length each).symm
        refine ⟨fun empty => length (.inl (by simp [empty])), by omega, digits, each, ?_⟩
        rw [UInt16.toNat_ofNat_of_lt' (readBase_lt (by omega) small)]
  · rintro ⟨nonempty, short, digits, each, value⟩
    have length : ¬ (text.length = 0 ∨ 4 < text.length) := by
      have positive := List.length_pos_iff.mpr nonempty
      omega
    rw [if_neg length, allSome_eq_some_iff.mpr each, Option.map_some, value, UInt16.ofNat_toNat]

theorem groupsText_iff_of_absent {mixed : Bool} {groups : List UInt16} (absent : ':' ∉ text) :
    GroupsText mixed text groups ↔ (∃ group, GroupText text group ∧ [group] = groups) ∨
      ∃ ip, mixed = true ∧ text = ip.text.toList ∧ ofIpv4 ip = groups := by
  constructor
  · intro written
    cases written with
    | single last => exact .inl ⟨_, last, rfl⟩
    | embedded ip allowed => exact .inr ⟨ip, allowed, rfl, rfl⟩
    | cons first rest => simp at absent
  · rintro (⟨group, last, rfl⟩ | ⟨ip, allowed, rfl, rfl⟩)
    · exact .single last
    · exact .embedded ip allowed

/-- Reading piece by piece reads groups if it reads the last piece as one. -/
theorem read_splitAll_eq_some_iff {mixed : Bool}
    (read : List (List Char) → Option (List UInt16))
    (last : ∀ piece groups, ':' ∉ piece →
      (read [piece] = some groups ↔ GroupsText mixed piece groups))
    (next : ∀ piece other pieces groups, read (piece :: other :: pieces) = some groups ↔
      ∃ group rest, readGroup? piece = some group ∧ read (other :: pieces) = some rest ∧
        group :: rest = groups)
    {groups : List UInt16} :
    read (splitAll ':' text) = some groups ↔ GroupsText mixed text groups := by
  constructor
  · intro all
    generalize split : splitAll ':' text = pieces at all
    -- over the pieces: a colon ends each but the last, and the rest is split on its own
    induction pieces generalizing text groups with
    | nil => exact absurd split (splitAll_ne_nil text)
    | cons piece pieces ih =>
        obtain ⟨absent, ⟨rfl, rfl⟩ | ⟨behind, rfl, others⟩⟩ := splitAll_eq_cons split
        · exact (last text groups absent).mp all
        · cases pieces with
          | nil => exact absurd others (splitAll_ne_nil behind)
          | cons other pieces =>
              obtain ⟨group, rest, first, later, rfl⟩ := (next piece other pieces groups).mp all
              exact .cons (readGroup?_eq_some_iff.mp first) (ih others later)
  · intro written
    induction written with
    | @single piece group only =>
        have absent : ':' ∉ piece := only.not_mem rfl
        rw [splitAll_of_absent absent]
        exact (last _ _ absent).mpr (.single only)
    | embedded ip allowed =>
        have absent : ':' ∉ ip.text.toList := ip.not_mem_text (by decide) (by simp)
        rw [splitAll_of_absent absent]
        exact (last _ _ absent).mpr (.embedded ip allowed)
    | @cons piece text group groups first rest ih =>
        obtain ⟨other, pieces, split⟩ := List.exists_cons_of_ne_nil (splitAll_ne_nil text)
        rw [split] at ih
        rw [splitAll_append (first.not_mem rfl), split]
        exact (next _ _ _ _).mpr ⟨group, groups, readGroup?_eq_some_iff.mpr first, ih, rfl⟩

theorem read_side_eq_some_iff {mixed : Bool} {read : Option (List UInt16)}
    {groups : List UInt16} (nonempty : read = some groups ↔ GroupsText mixed text groups) :
    (if text = [] then some [] else read) = some groups ↔ SideText mixed text groups := by
  rw [SideText]
  split
  · next empty =>
      subst empty
      have unwritten : ¬ GroupsText mixed [] groups := by
        intro written
        obtain ⟨c, rest, form, -⟩ := written.exists_cons
        cases form
      simp [unwritten, eq_comm]
  · next full => simp only [full, false_and, false_or, nonempty]

theorem readPlainGroups?_eq_some_iff {groups : List UInt16} :
    readPlainGroups? text = some groups ↔ SideText false text groups := by
  refine read_side_eq_some_iff (read_splitAll_eq_some_iff
    (fun pieces => allSome (pieces.map readGroup?)) ?_ ?_)
  · intro piece groups absent
    simp [groupsText_iff_of_absent absent, allSome_cons_eq_some_iff, allSome,
      readGroup?_eq_some_iff]
  · intro piece other pieces groups
    rw [List.map_cons, allSome_cons_eq_some_iff]

theorem readGroups?_eq_some_iff {groups : List UInt16} :
    readGroups? text = some groups ↔ SideText true text groups := by
  refine read_side_eq_some_iff (read_splitAll_eq_some_iff readPieces? ?_ ?_)
  · intro piece groups absent
    rw [readPieces?, groupsText_iff_of_absent absent]
    cases embedded : Ipv4.read? piece with
    | some ip =>
        have form := Ipv4.read?_eq_some_iff.mp embedded
        have ungrouped (group : UInt16) : ¬ GroupText piece group :=
          fun written => written.not_mem rfl (form ▸ ip.dot_mem_text)
        have only (other : Ipv4) : piece = other.text.toList ↔ ip = other := by
          rw [← Ipv4.read?_eq_some_iff, embedded, Option.some.injEq]
        simp [ungrouped, only]
    | none =>
        have unembedded (ip : Ipv4) : piece ≠ ip.text.toList := by
          intro form
          rw [Ipv4.read?_eq_some_iff.mpr form] at embedded
          cases embedded
        simp [unembedded, readGroup?_eq_some_iff]
  · intro piece other pieces groups
    rw [readPieces?]
    · simp [bind, pure, Option.bind_eq_some_iff]
    · exact List.cons_ne_nil other pieces

theorem splitWord?_of_side {head : List Char} {front : List UInt16}
    (before : SideText false head front) (tail : List Char) :
    splitWord? [':', ':'] (head ++ ':' :: ':' :: tail) = some (head, tail) := by
  have here : splitWord? [':', ':'] (':' :: ':' :: tail) = some ([], tail) := by
    simp [splitWord?, dropStart?]
  rcases before with ⟨rfl, -⟩ | written
  · exact here
  · simp [written.splitWord?_append, here]

theorem Literal.of_readAll? {ip : Ipv6} (read : readAll? text = some ip.groups) :
    Literal text ip := by
  rw [readAll?] at read
  split at read
  · rcases readGroups?_eq_some_iff.mp read with ⟨-, empty⟩ | written
    · have length := ip.length_groups
      rw [empty] at length
      cases length
    · exact .full written
  · next head tail found =>
      simp only [bind, pure, Option.bind_eq_some_iff] at read
      obtain ⟨front, before, back, behind, filled⟩ := read
      split at filled
      · next short =>
          rw [eq_of_splitWord? found, List.append_assoc]
          refine .compressed (readPlainGroups?_eq_some_iff.mp before)
            (readGroups?_eq_some_iff.mp behind) ?_ (Option.some.inj filled).symm
          omega
      · cases filled

theorem Literal.readAll? {ip : Ipv6} (literal : Literal text ip) :
    readAll? text = some ip.groups := by
  rw [Ipv6.readAll?]
  cases literal with
  | full written =>
      have whole := written.splitWord?_append []
      rw [List.append_nil] at whole
      rw [whole]
      exact readGroups?_eq_some_iff.mpr (.inr written)
  | @compressed head tail front back _ zeros before behind positive groups =>
      have length := ip.length_groups
      rw [groups, List.length_append, List.length_append, List.length_replicate] at length
      have fill : 8 - (front.length + back.length) = zeros := by omega
      have short : front.length + back.length < 8 := by omega
      simp only [splitWord?_of_side before, readPlainGroups?_eq_some_iff.mpr before,
        readGroups?_eq_some_iff.mpr behind, bind, Option.bind_some, if_pos short, fill, groups]
      rfl

/-- An IPv6 address is read from its texts, and from no others. -/
theorem read?_eq_some_iff {ip : Ipv6} : read? text = some ip ↔ Literal text ip := by
  constructor
  · intro found
    rw [read?] at found
    split at found
    · next groups all =>
        split at found
        · cases found
          exact .of_readAll? all
        · cases found
    · cases found
  · intro literal
    rw [read?, literal.readAll?]
    exact dif_pos ip.length_groups

end Groups

end Ipv6

end RpcTransport
