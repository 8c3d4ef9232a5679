import RpcTransport.Proofs.Config.FieldTypes
import RpcTransport.Proofs.Json.Fields

/-! # Decoding merges fields over their defaults

An object is decoded field by field: what it gives for a field has to be of the type of the field
and then is its content, and what it does not give keeps the default. Nothing else in the object
makes a difference, and one value of a wrong type fails the whole.
-/

namespace RpcTransport

open Json (Value)

section Sections

variable {encoding : Encoding} {members : List (String × Value)} {part : ConfigSection}

theorem read_named_eq_some_iff {α : Type} (position : Nat) {name : String}
    {reader : Value → Option α} {missing result : α} :
    (Section.named (Json.sortFields members)).read position name reader missing = some result ↔
      match (Value.object members).get? name with
      | some value => reader value = some result
      | none => result = missing := by
  simp only [Section.read, Section.get?, Value.get?, Value.fields?]
  cases (Json.sortFields members).lookup name with
  | some value => exact Iff.rfl
  | none => rw [Option.some.injEq, eq_comm]

/-- A log format is not written as an object. -/
def ConfigField.Plain (field : ConfigField part) (given : Option Value) : Prop :=
  field.type = .format → ∀ members, given ≠ some (.object members)

/-- Four parts that are read one after the other make a record just if each of them is read. -/
theorem forall_read_iff_four {ι σ : Type} {Part : ι → Type} (get : ∀ n, σ → Part n)
    (i j k l : ι) (all : ∀ n, n = i ∨ n = j ∨ n = k ∨ n = l)
    (make : Part i → Part j → Part k → Part l → σ)
    (get_make : ∀ a b c d, get i (make a b c d) = a ∧ get j (make a b c d) = b ∧
      get k (make a b c d) = c ∧ get l (make a b c d) = d)
    (make_get : ∀ record, make (get i record) (get j record) (get k record) (get l record) = record)
    {read : ∀ n, Option (Part n)} {record : σ} :
    (∀ n, read n = some (get n record)) ↔
      ((read i).bind fun a => (read j).bind fun b => (read k).bind fun c => (read l).bind fun d =>
        some (make a b c d)) = some record := by
  simp only [Option.bind_eq_some_iff, Option.some.injEq]
  constructor
  · intro reads
    exact ⟨_, reads i, _, reads j, _, reads k, _, reads l, make_get record⟩
  · rintro ⟨a, first, b, second, c, third, d, fourth, rfl⟩ n
    obtain ⟨ofFirst, ofSecond, ofThird, ofFourth⟩ := get_make a b c d
    obtain rfl | rfl | rfl | rfl := all n
    · rw [ofFirst, first]
    · rw [ofSecond, second]
    · rw [ofThird, third]
    · rw [ofFourth, fourth]

theorem ConfigField.read_eq_some_iff (encoding : Encoding) {field : ConfigField part}
    {content : part.Content}
    (plain : field.Plain ((Value.object members).get? field.name)) :
    (Section.named (Json.sortFields members)).read 0 field.name
        (field.type.reader encoding) (field.content {}) = some (field.within content) ↔
      field.Fills ((Value.object members).get? field.name) (field.within content) := by
  rw [read_named_eq_some_iff]
  cases given : (Value.object members).get? field.name with
  | none => exact Iff.rfl
  | some value =>
      apply FieldType.reader_eq_some_iff
      rintro format inner rfl
      exact plain format inner given

/-- The fields of a section are read one after the other, whatever position they have. -/
theorem ConfigSection.forall_read_iff {content : part.Content} :
    (∀ field : ConfigField part,
        (Section.named (Json.sortFields members)).read 0 field.name (field.type.reader encoding)
          (field.content {}) = some (field.within content)) ↔
      part.decode encoding (.object members) = some content := by
  cases part with
  | host =>
      exact forall_read_iff_four ConfigField.within .serviceName .primaryAddress .bridgeEnabled
        .bridgeAddress (fun field => by cases field <;> simp) HostConfig.mk
        (fun _ _ _ _ => ⟨rfl, rfl, rfl, rfl⟩) fun _ => rfl
  | client =>
      exact forall_read_iff_four ConfigField.within .connectTimeout .requestTimeout .tcpNoDelay
        .keepaliveInterval (fun field => by cases field <;> simp) ClientConfig.mk
        (fun _ _ _ _ => ⟨rfl, rfl, rfl, rfl⟩) fun _ => rfl
  | observability =>
      exact forall_read_iff_four ConfigField.within .logLevel .logFormat .metricsEnabled
        .metricsAddress (fun field => by cases field <;> simp) ObservabilityConfig.mk
        (fun _ _ _ _ => ⟨rfl, rfl, rfl, rfl⟩) fun _ => rfl
  | system =>
      constructor
      · intro reads
        exact Option.bind_eq_some_iff.mpr ⟨_, reads .path, rfl⟩
      · intro decoded field
        obtain ⟨_, read, ⟨⟩⟩ := Option.bind_eq_some_iff.mp decoded
        cases field with
        | path => exact read

theorem ConfigSection.decode_object {content : part.Content}
    (plain : ∀ field : ConfigField part,
      field.Plain ((Value.object members).get? field.name)) :
    part.decode encoding (.object members) = some content ↔
      ∀ field : ConfigField part,
        field.Fills ((Value.object members).get? field.name) (field.within content) :=
  forall_read_iff.symm.trans
    (forall_congr' fun field => ConfigField.read_eq_some_iff encoding (plain field))

/-- A section has the content that its value is decoded to, or else its default. -/
def ConfigSection.Merges (encoding : Encoding) (part : ConfigSection) (given : Option Value)
    (content : part.Content) : Prop :=
  match given with
  | some value => part.decode encoding value = some content
  | none => content = Config.part {} part

theorem Config.decode_object {config : Config} :
    Config.decode encoding (.object members) = some config ↔
      ∀ part : ConfigSection,
        part.Merges encoding ((Value.object members).get? part.name) (config.part part) := by
  refine Iff.trans (Iff.symm ?_) (forall_congr' fun part => read_named_eq_some_iff 0)
  exact forall_read_iff_four (fun (part : ConfigSection) (config : Config) => config.part part)
    .host .client .observability .system (fun part => by cases part <;> simp) Config.mk
    (fun _ _ _ _ => ⟨rfl, rfl, rfl, rfl⟩) fun _ => rfl

theorem ConfigSection.object_of_decode {content : part.Content} {value : Value}
    (plain : ∀ items, value ≠ .array items)
    (decoded : part.decode encoding value = some content) :
    ∃ members, value = .object members := by
  cases value with
  | object members => exact ⟨members, rfl⟩
  | array items => exact absurd rfl (plain items)
  | _ => cases part <;> cases decoded

theorem ConfigSection.eq_of_within {first second : part.Content}
    (same : ∀ field : ConfigField part, field.within first = field.within second) :
    first = second := by
  cases part with
  | host =>
      exact (HostConfig.mk.injEq ..).mpr ⟨same .serviceName, same .primaryAddress,
        same .bridgeEnabled, same .bridgeAddress⟩
  | client =>
      exact (ClientConfig.mk.injEq ..).mpr ⟨same .connectTimeout, same .requestTimeout,
        same .tcpNoDelay, same .keepaliveInterval⟩
  | observability =>
      exact (ObservabilityConfig.mk.injEq ..).mpr ⟨same .logLevel, same .logFormat,
        same .metricsEnabled, same .metricsAddress⟩
  | system => exact (SystemSource.mk.injEq ..).mpr (same .path)

def ConfigSection.ofFields : (part : ConfigSection) →
    (∀ field : ConfigField part, field.type.Content) → part.Content
  | host, given => HostConfig.mk (given .serviceName) (given .primaryAddress)
      (given .bridgeEnabled) (given .bridgeAddress)
  | client, given => ClientConfig.mk (given .connectTimeout) (given .requestTimeout)
      (given .tcpNoDelay) (given .keepaliveInterval)
  | observability, given => ObservabilityConfig.mk (given .logLevel) (given .logFormat)
      (given .metricsEnabled) (given .metricsAddress)
  | system, given => SystemSource.mk (given .path)

@[simp] theorem ConfigField.within_ofFields (field : ConfigField part)
    (given : ∀ field : ConfigField part, field.type.Content) :
    field.within (part.ofFields given) = given field := by
  cases field <;> rfl

def Config.ofParts (given : ∀ part : ConfigSection, part.Content) : Config :=
  ⟨given .host, given .client, given .observability, given .system⟩

@[simp] theorem Config.part_ofParts (given : ∀ part : ConfigSection, part.Content)
    (part : ConfigSection) : (Config.ofParts given).part part = given part := by
  cases part <;> rfl

end Sections

/-- No section of the object is an array, and its log format is not an object. -/
structure WrittenPlainly (root : Value) : Prop where
  sections (part : ConfigSection) (items : List Value) :
    root.get? part.name ≠ some (.array items)
  format (members : List (String × Value)) :
    ConfigField.logFormat.supplied? root ≠ some (.object members)

theorem WrittenPlainly.field {root : Value} (plain : WrittenPlainly root) {part : ConfigSection}
    (field : ConfigField part) : field.Plain (field.supplied? root) := by
  intro format members
  cases field with
  | logFormat => exact plain.format members
  | _ => cases format

def HasSections (root : Value) : Prop :=
  ∀ (part : ConfigSection) (value : Value), root.get? part.name = some value →
    ∃ members, value = .object members

section Roots

variable {encoding : Encoding} {root : Value} {part : ConfigSection}

/-- A section merges its value just as its fields merge what is given for them. -/
theorem ConfigSection.merges_iff (plain : WrittenPlainly root) {content : part.Content} :
    part.Merges encoding (root.get? part.name) content ↔
      (∀ value, root.get? part.name = some value → ∃ members, value = .object members) ∧
        ∀ field : ConfigField part, field.Fills (field.supplied? root) (field.within content) := by
  have fields := fun field : ConfigField part => plain.field field
  have arrays := plain.sections part
  simp only [ConfigField.supplied?] at fields ⊢
  cases given : root.get? part.name with
  | none =>
      constructor
      · rintro rfl
        exact ⟨nofun, fun _ => rfl⟩
      · rintro ⟨-, same⟩
        exact eq_of_within same
  | some value =>
      rw [given] at fields arrays
      constructor
      · intro decoded
        obtain ⟨members, rfl⟩ := object_of_decode (fun items same => arrays items (same ▸ rfl)) decoded
        refine ⟨fun _ same => ⟨members, (Option.some.inj same).symm⟩, ?_⟩
        exact (decode_object fields).mp decoded
      · rintro ⟨object, merges⟩
        obtain ⟨members, rfl⟩ := object value rfl
        exact (decode_object fields).mpr merges

theorem Config.decode_eq_some_iff {members : List (String × Value)} {config : Config}
    (plain : WrittenPlainly (.object members)) :
    Config.decode encoding (.object members) = some config ↔
      HasSections (.object members) ∧ ∀ (part : ConfigSection) (field : ConfigField part),
        field.Fills (field.supplied? (.object members)) (field.content config) := by
  rw [Config.decode_object]
  simp only [ConfigSection.merges_iff plain, forall_and]
  exact Iff.rfl

theorem ConfigField.exists_fills_iff (field : ConfigField part) {given : Option Value} :
    (∃ content, field.Fills given content) ↔
      ∀ value, given = some value → ∃ content, field.type.Writes content value := by
  cases given with
  | none => exact ⟨fun _ => nofun, fun _ => ⟨field.content {}, rfl⟩⟩
  | some value =>
      constructor
      · rintro filled _ ⟨⟩
        exact filled
      · intro typed
        exact typed value rfl

theorem Config.exists_decode_iff {members : List (String × Value)}
    (plain : WrittenPlainly (.object members)) :
    (∃ config, Config.decode encoding (.object members) = some config) ↔
      HasSections (.object members) ∧ ∀ (part : ConfigSection) (field : ConfigField part),
        ∃ content, field.Fills (field.supplied? (.object members)) content := by
  simp only [decode_eq_some_iff plain, exists_and_left]
  refine and_congr_right fun _ => ⟨?_, ?_⟩
  · rintro ⟨config, fills⟩ part field
    exact ⟨_, fills part field⟩
  · intro filled
    refine ⟨.ofParts fun part => part.ofFields fun field => (filled part field).choose, ?_⟩
    intro part field
    rw [ConfigField.content, part_ofParts, ConfigField.within_ofFields]
    exact (filled part field).choose_spec

theorem ConfigSection.merges_empty {content : part.Content} :
    part.Merges encoding (some (.object [])) content ↔ part.Merges encoding none content := by
  have plain : ∀ field : ConfigField part, field.Plain ((Value.object []).get? field.name) :=
    fun _ _ _ => nofun
  refine (decode_object plain).trans ⟨?_, ?_⟩
  · intro defaults
    exact eq_of_within defaults
  · rintro rfl field
    exact rfl

theorem ConfigSection.name_inj {first second : ConfigSection}
    (same : first.name = second.name) : first = second := by
  cases first <;> cases second <;> first | rfl | exact absurd same (by decide)

end Roots

structure MergesFields (encoding : Encoding) (members : List (String × Value)) : Prop where
  accepted : (∃ config, Config.decode encoding (.object members) = some config) ↔
    HasSections (.object members) ∧
      ∀ (part : ConfigSection) (field : ConfigField part) (value : Value),
        field.supplied? (.object members) = some value →
          ∃ content, field.type.Writes content value
  /-- A field has the content that is given for it, and its default without one. -/
  merged (config : Config) : Config.decode encoding (.object members) = some config →
    ∀ (part : ConfigSection) (field : ConfigField part),
      field.Fills (field.supplied? (.object members)) (field.content config)
  /-- One value of a wrong type is enough. -/
  refused (part : ConfigSection) (field : ConfigField part) (value : Value) :
    field.supplied? (.object members) = some value →
      (∀ content, ¬ field.type.Writes content value) →
        Config.decode encoding (.object members) = none
  /-- Nothing counts but what is given for the fields. -/
  alike (others : List (String × Value)) : WrittenPlainly (.object others) →
    (HasSections (.object others) ↔ HasSections (.object members)) →
      (∀ (part : ConfigSection) (field : ConfigField part),
        field.supplied? (.object others) = field.supplied? (.object members)) →
        Config.decode encoding (.object others) = Config.decode encoding (.object members)
  /-- An empty section may as well be left out. -/
  empty (part : ConfigSection) : (Value.object members).get? part.name = none →
    Config.decode encoding (.object (members ++ [(part.name, .object [])])) =
      Config.decode encoding (.object members)

/-- Decoding merges the fields that an object gives over the defaults of all fields. -/
theorem Config.decode_mergesFields {members : List (String × Value)} (encoding : Encoding)
    (plain : WrittenPlainly (.object members)) : MergesFields encoding members := by
  constructor
  case accepted =>
    simp only [exists_decode_iff plain, ConfigField.exists_fills_iff]
  case merged =>
    intro config decoded
    exact ((decode_eq_some_iff plain).mp decoded).2
  case refused =>
    intro part field value given illTyped
    apply Option.eq_none_iff_forall_ne_some.mpr
    intro config decoded
    have filled := ((decode_eq_some_iff plain).mp decoded).2 part field
    rw [given] at filled
    exact illTyped _ filled
  case alike =>
    intro others plainly sections same
    apply Option.ext
    intro config
    rw [decode_eq_some_iff plainly, decode_eq_some_iff plain, sections]
    simp only [same]
  case empty =>
    intro part absent
    apply Option.ext
    intro config
    rw [decode_object, decode_object]
    apply forall_congr'
    intro other
    rw [Value.get?_concat]
    split
    · next same =>
        cases ConfigSection.name_inj same
        rw [absent, ConfigSection.merges_empty]
    · exact Iff.rfl

/-- A section in part, beside one that is null in its field and a member that is no section. -/
theorem mergesFields_client_system :
    let members : List (String × Value) :=
      [("client", .object [("tcp_nodelay", .bool false), ("note", .null)]),
        ("system", .object [("path", .null)]), ("extra", .array [])]
    WrittenPlainly (.object members) ∧ MergesFields .json members := by
  intro members
  have plain : WrittenPlainly (.object members) := by
    constructor
    · intro part items
      rw [Value.get?_object]
      cases part <;> simp [members, ConfigSection.name, List.lookup_cons]
    · intro inner
      rw [ConfigField.supplied?, Value.get?_object]
      simp [members, ConfigSection.name, List.lookup_cons]
  exact ⟨plain, Config.decode_mergesFields .json plain⟩

example : Config.decode .json (.object [("client", .object [("tcp_nodelay", .bool false)])]) =
    some { client := { tcpNoDelay := false } } := by cbv

end RpcTransport
