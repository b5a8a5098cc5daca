import SafeMarkup.Proofs.Bytes
import SafeMarkup.Proofs.ValidatorData

/-!
Contract: written policies survive being written as data.

Owns: policies whose tables name nothing twice, which are those that come from data, by merging and
by taking elements off; and that their data is read back as what it was written from, with the order
of all entries and with the settings that were not written left unwritten, unless it is nested too
deep for the reader. Policies with the same bytes are the same, however deep they are nested.

Does not own: the digest that is made of those bytes, and other notations for the same data.
-/

namespace SafeMarkup

open Dictionary

/-! ## Policies that name nothing twice -/

/-- Every rule set names each attribute once. -/
def ChainSpec.Keyed (chain : ChainSpec) : Prop := ∀ ruleSet ∈ chain, (keys ruleSet).Nodup

structure Rewrite.Keyed (rewrite : Rewrite) : Prop where
  conditions : (keys rewrite.conditions).Nodup
  add : (keys rewrite.add).Nodup

structure StyleTableSpec.Keyed (table : StyleTableSpec) : Prop where
  aliases : (keys table.aliases).Nodup
  properties : (keys table.properties).Nodup
  chains : ∀ entry ∈ table.properties, ChainSpec.Keyed entry.2

/-- Each table of a policy, down to those of its parts, names each of its keys once. -/
structure PolicySpec.Keyed (policy : PolicySpec) : Prop where
  elementAliases : (keys policy.elementAliases).Nodup
  attributeAliases : (keys policy.attributeAliases).Nodup
  rewrites : (keys policy.rewrites).Nodup
  rules : ∀ entry ∈ policy.rewrites, ∀ rewrite ∈ entry.2, rewrite.Keyed
  styleTables : (keys policy.styleTables).Nodup
  tables : ∀ entry ∈ policy.styleTables, entry.2.Keyed
  elements : (keys policy.elements).Nodup
  chains : ∀ entry ∈ policy.elements, ChainSpec.Keyed entry.2

instance (chain : ChainSpec) : Decidable (ChainSpec.Keyed chain) :=
  inferInstanceAs (Decidable (∀ ruleSet ∈ chain, (keys ruleSet).Nodup))

instance (rewrite : Rewrite) : Decidable rewrite.Keyed :=
  decidable_of_iff ((keys rewrite.conditions).Nodup ∧ (keys rewrite.add).Nodup)
    ⟨fun ⟨conditions, add⟩ => ⟨conditions, add⟩, fun keyed => ⟨keyed.conditions, keyed.add⟩⟩

instance (table : StyleTableSpec) : Decidable table.Keyed :=
  decidable_of_iff ((keys table.aliases).Nodup ∧ (keys table.properties).Nodup ∧
      ∀ entry ∈ table.properties, ChainSpec.Keyed entry.2)
    ⟨fun ⟨aliases, properties, chains⟩ => ⟨aliases, properties, chains⟩,
      fun keyed => ⟨keyed.aliases, keyed.properties, keyed.chains⟩⟩

theorem ChainSpec.keyed_of_decode? {value : Value} {chain : ChainSpec}
    (reads : decodeChain? value = some chain) : ChainSpec.Keyed chain := by
  intro ruleSet member
  obtain ⟨source, readSource⟩ := read_of_mem_readList reads member
  exact (readDictionary_eq_some readSource).1

theorem Rewrite.keyed_of_decode? {value : Value} {rewrite : Rewrite}
    (reads : Rewrite.decode? value = some rewrite) : rewrite.Keyed := by
  simp only [Rewrite.decode?, Option.bind_eq_bind, Option.bind_eq_some_iff] at reads
  obtain ⟨fields, -, conditions, readConditions, rename, -, add, readAdd, same⟩ := reads
  obtain rfl := Option.some.inj same
  exact ⟨(fieldOr_dictionary readConditions).1, (fieldOr_dictionary readAdd).1⟩

theorem StyleTableSpec.keyed_of_decode? {value : Value} {table : StyleTableSpec}
    (reads : StyleTableSpec.decode? value = some table) : table.Keyed := by
  simp only [StyleTableSpec.decode?, Option.bind_eq_bind, Option.bind_eq_some_iff] at reads
  obtain ⟨fields, -, aliases, readAliases, properties, readProperties, same⟩ := reads
  obtain rfl := Option.some.inj same
  obtain ⟨distinct, chains⟩ := fieldOr_dictionary readProperties
  refine ⟨(fieldOr_dictionary readAliases).1, distinct, ?_⟩
  intro entry member
  obtain ⟨source, readSource⟩ := chains entry member
  exact ChainSpec.keyed_of_decode? readSource

/-- Every policy that was read names nothing twice. -/
theorem PolicySpec.keyed_of_decode? {value : Value} {policy : PolicySpec}
    (reads : PolicySpec.decode? value = some policy) : policy.Keyed := by
  obtain ⟨fields, -, reads⟩ := Option.bind_eq_some_iff.mp reads
  obtain ⟨siteDomain, -, reads⟩ := Option.bind_eq_some_iff.mp reads
  obtain ⟨verbose, -, reads⟩ := Option.bind_eq_some_iff.mp reads
  obtain ⟨blockElements, -, reads⟩ := Option.bind_eq_some_iff.mp reads
  obtain ⟨defaultBlock, -, reads⟩ := Option.bind_eq_some_iff.mp reads
  obtain ⟨voidElements, -, reads⟩ := Option.bind_eq_some_iff.mp reads
  obtain ⟨keepEmpty, -, reads⟩ := Option.bind_eq_some_iff.mp reads
  obtain ⟨keepNbsp, -, reads⟩ := Option.bind_eq_some_iff.mp reads
  obtain ⟨elementAliases, readElementAliases, reads⟩ := Option.bind_eq_some_iff.mp reads
  obtain ⟨attributeAliases, readAttributeAliases, reads⟩ := Option.bind_eq_some_iff.mp reads
  obtain ⟨rewrites, readRewrites, reads⟩ := Option.bind_eq_some_iff.mp reads
  obtain ⟨styleTables, readStyleTables, reads⟩ := Option.bind_eq_some_iff.mp reads
  obtain ⟨elements, readElements, same⟩ := Option.bind_eq_some_iff.mp reads
  obtain rfl := Option.some.inj same
  obtain ⟨rewritesDistinct, rules⟩ := fieldOr_dictionary readRewrites
  obtain ⟨tablesDistinct, tables⟩ := fieldOr_dictionary readStyleTables
  obtain ⟨elementsDistinct, chains⟩ := fieldOr_dictionary readElements
  refine ⟨(fieldOr_dictionary readElementAliases).1, (fieldOr_dictionary readAttributeAliases).1,
    rewritesDistinct, ?_, tablesDistinct, ?_, elementsDistinct, ?_⟩
  · intro entry member rewrite inside
    obtain ⟨source, readSource⟩ := rules entry member
    obtain ⟨rule, readRule⟩ := read_of_mem_readList readSource inside
    exact Rewrite.keyed_of_decode? readRule
  · intro entry member
    obtain ⟨source, readSource⟩ := tables entry member
    exact StyleTableSpec.keyed_of_decode? readSource
  · intro entry member
    obtain ⟨source, readSource⟩ := chains entry member
    exact ChainSpec.keyed_of_decode? readSource

/-- Merging keeps names apart. -/
theorem PolicySpec.Keyed.merge {base user : PolicySpec} (first : base.Keyed)
    (second : user.Keyed) : (base.merge user).Keyed := by
  refine ⟨nodup_keys_insertAll first.elementAliases, nodup_keys_insertAll first.attributeAliases,
    nodup_keys_insertAll first.rewrites, ?_, nodup_keys_insertAll first.styleTables, ?_,
    nodup_keys_insertAll first.elements, ?_⟩
  · intro entry member
    exact (mem_insertAll member).elim (second.rules entry) (first.rules entry)
  · intro entry member
    exact (mem_insertAll member).elim (second.tables entry) (first.tables entry)
  · intro entry member
    exact (mem_insertAll member).elim (second.chains entry) (first.chains entry)

/-- Taking elements off keeps names apart. -/
theorem PolicySpec.Keyed.without {policy : PolicySpec} (keyed : policy.Keyed)
    (denied : List Text) : (policy.without denied).Keyed := by
  have elements : (keys (policy.without denied).elements).Nodup :=
    keyed.elements.sublist (List.filter_sublist.map Prod.fst)
  have elementAliases : (keys (policy.without denied).elementAliases).Nodup := by
    show (keys (mapValues _ _)).Nodup
    rw [keys_mapValues]
    exact keyed.elementAliases.sublist (List.filter_sublist.map Prod.fst)
  refine { keyed with elements, elementAliases, chains := ?_ }
  intro entry member
  exact keyed.chains entry (List.mem_of_mem_filter member)

/-! ## Tables -/

theorem decodeChain?_encodeChain {chain : ChainSpec} (keyed : ChainSpec.Keyed chain) :
    decodeChain? (encodeChain chain) = some chain := by
  apply readList_encoded
  intro ruleSet member
  apply readDictionary_encoded (keyed ruleSet member)
  exact fun entry _ => ValidatorSpec.decode?_encode entry.2

theorem decodeAliases?_encodeAliases {aliases : Dictionary (List Text)}
    (distinct : (keys aliases).Nodup) : decodeAliases? (encodeAliases aliases) = some aliases :=
  readDictionary_encoded distinct fun entry _ => readTexts_encoded entry.2

theorem readPairs_encodePairs {pairs : Dictionary Text} (distinct : (keys pairs).Nodup) :
    Value.readDictionary Value.asString? (encodePairs pairs) = some pairs :=
  readDictionary_encoded distinct fun _ _ => rfl

theorem Rewrite.decode?_encode {rewrite : Rewrite} (keyed : rewrite.Keyed) :
    Rewrite.decode? rewrite.encode = some rewrite := by
  have distinct : (keys [(("when" : Text), encodePairs rewrite.conditions),
      ("rename", .string rewrite.rename), ("add", encodePairs rewrite.add)]).Nodup := by
    show (["when", "rename", "add"] : List Text).Nodup
    decide
  have conditions := fieldOr_of_get? distinct "when" [] rfl
    (readPairs_encodePairs keyed.conditions)
  have rename : requiredField "rename" Value.asString? _ = some rewrite.rename :=
    requiredField_of_get? distinct "rename" rfl rfl
  have add := fieldOr_of_get? distinct "add" [] rfl (readPairs_encodePairs keyed.add)
  rw [Rewrite.decode?, Rewrite.encode]
  simp only [Value.readStructure, Value.readFields, Option.bind_eq_bind, Option.bind_some]
  rw [conditions, rename, add]
  rfl

theorem StyleTableSpec.decode?_encode {table : StyleTableSpec} (keyed : table.Keyed) :
    StyleTableSpec.decode? table.encode = some table := by
  have distinct : (keys [(("aliases" : Text), encodeAliases table.aliases),
      ("properties", .record (mapValues encodeChain table.properties))]).Nodup := by
    show (["aliases", "properties"] : List Text).Nodup
    decide
  have chains := readDictionary_encoded keyed.properties
    fun entry member => decodeChain?_encodeChain (keyed.chains entry member)
  have aliases := fieldOr_of_get? distinct "aliases" [] rfl
    (decodeAliases?_encodeAliases keyed.aliases)
  have properties := fieldOr_of_get? distinct "properties" [] rfl chains
  rw [StyleTableSpec.decode?, StyleTableSpec.encode]
  simp only [Value.readStructure, Value.readFields, Option.bind_eq_bind, Option.bind_some]
  rw [aliases, properties]
  rfl

theorem decodeSite?_encodeOptional (domain : Option Text) :
    decodeSite? (.record (encodeOptional "domain" .string domain)) = some domain := by
  have distinct : (keys (encodeOptional "domain" .string domain)).Nodup :=
    (List.nodup_singleton _).sublist (keys_encodeOptional _ _ _)
  have found : get? "domain" (encodeOptional "domain" .string domain) = domain.map .string := by
    rw [get?_encodeOptional, if_pos rfl]
  exact fieldOr_optional distinct found fun _ => rfl

/-! ## Policies -/

namespace PolicySpec

/-- The fields of a policy. -/
def fields (policy : PolicySpec) : List (Text × Value) :=
  ("site", .record (encodeOptional "domain" .string policy.siteDomain)) ::
    (encodeSettings policy ++ encodeTables policy)

theorem keys_fields (policy : PolicySpec) : (keys (fields policy)).Sublist policyFields := by
  have settings : (keys (encodeSettings policy)).Sublist
      ["verbose", "block_elements", "default_block", "void_elements", "keep_empty",
       "keep_nbsp"] := by
    simp only [encodeSettings, keys_append]
    exact (((((keys_encodeOptional _ _ _).append (keys_encodeOptional _ _ _)).append
      (keys_encodeOptional _ _ _)).append (keys_encodeOptional _ _ _)).append
      (keys_encodeOptional _ _ _)).append (keys_encodeOptional _ _ _)
  rw [fields, keys_cons, keys_append]
  exact (settings.append (List.Sublist.refl _)).cons_cons _

theorem nodup_keys (policy : PolicySpec) : (keys (fields policy)).Nodup := by
  have distinct : policyFields.Nodup := by decide
  exact distinct.sublist (keys_fields policy)

theorem get?_settings (policy : PolicySpec) :
    get? "verbose" (fields policy) = policy.verbose.map .bool ∧
      get? "block_elements" (fields policy) = policy.blockElements.map encodeTexts ∧
      get? "default_block" (fields policy) = policy.defaultBlock.map .string ∧
      get? "void_elements" (fields policy) = policy.voidElements.map encodeTexts ∧
      get? "keep_empty" (fields policy) = policy.keepEmpty.map encodeTexts ∧
      get? "keep_nbsp" (fields policy) = policy.keepNbsp.map encodeTexts := by
  simp only [fields, encodeSettings, encodeTables, get?, get?_append, get?_encodeOptional,
    String.toList_inj, String.reduceEq, ↓reduceIte, Option.or_none, Option.none_or, and_self]

theorem get?_tables (policy : PolicySpec) :
    get? "element_aliases" (fields policy) = some (encodeAliases policy.elementAliases) ∧
      get? "attribute_aliases" (fields policy) = some (encodeAliases policy.attributeAliases) ∧
      get? "rewrites" (fields policy) = some (.record (mapValues
        (fun rules => .list (rules.map Rewrite.encode)) policy.rewrites)) ∧
      get? "style_tables" (fields policy) =
        some (.record (mapValues StyleTableSpec.encode policy.styleTables)) ∧
      get? "elements" (fields policy) =
        some (.record (mapValues encodeChain policy.elements)) := by
  simp only [fields, encodeSettings, encodeTables, get?, get?_append, get?_encodeOptional,
    String.toList_inj, String.reduceEq, ↓reduceIte, Option.or_none, Option.none_or, and_self]

/-- A policy is read back from its data. -/
theorem decode?_encode {policy : PolicySpec} (keyed : policy.Keyed) :
    decode? policy.encode = some policy := by
  have distinct := nodup_keys policy
  have texts (texts : List Text) : Value.readOptional (Value.readList Value.asString?)
      (encodeTexts texts) = some (some texts) :=
    congrArg (Option.map some) (readTexts_encoded texts)
  have rules : Value.readDictionary (Value.readList Rewrite.decode?)
      (.record (mapValues (fun rules => .list (rules.map Rewrite.encode)) policy.rewrites)) =
        some policy.rewrites :=
    readDictionary_encoded keyed.rewrites fun entry member =>
      readList_encoded fun rewrite inside =>
        Rewrite.decode?_encode (keyed.rules entry member rewrite inside)
  have tables := readDictionary_encoded keyed.styleTables fun entry member =>
    StyleTableSpec.decode?_encode (keyed.tables entry member)
  have chains := readDictionary_encoded keyed.elements fun entry member =>
    decodeChain?_encodeChain (keyed.chains entry member)
  have site := fieldOr_of_get? distinct "site" none rfl
    (decodeSite?_encodeOptional policy.siteDomain)
  obtain ⟨verbose, blockElements, defaultBlock, voidElements, keepEmpty, keepNbsp⟩ :=
    get?_settings policy
  obtain ⟨elementAliases, attributeAliases, rewrites, styleTables, elements⟩ := get?_tables policy
  -- The fields of a record are at hand, so the first step of the reading is that of the site.
  refine Option.bind_eq_some_iff.mpr ⟨_, site, ?_⟩
  refine Option.bind_eq_some_iff.mpr ⟨_, fieldOr_optional distinct verbose fun _ => rfl, ?_⟩
  refine Option.bind_eq_some_iff.mpr ⟨_, fieldOr_optional distinct blockElements texts, ?_⟩
  refine Option.bind_eq_some_iff.mpr ⟨_, fieldOr_optional distinct defaultBlock fun _ => rfl, ?_⟩
  refine Option.bind_eq_some_iff.mpr ⟨_, fieldOr_optional distinct voidElements texts, ?_⟩
  refine Option.bind_eq_some_iff.mpr ⟨_, fieldOr_optional distinct keepEmpty texts, ?_⟩
  refine Option.bind_eq_some_iff.mpr ⟨_, fieldOr_optional distinct keepNbsp texts, ?_⟩
  refine Option.bind_eq_some_iff.mpr ⟨_, fieldOr_of_get? distinct _ [] elementAliases
    (decodeAliases?_encodeAliases keyed.elementAliases), ?_⟩
  refine Option.bind_eq_some_iff.mpr ⟨_, fieldOr_of_get? distinct _ [] attributeAliases
    (decodeAliases?_encodeAliases keyed.attributeAliases), ?_⟩
  refine Option.bind_eq_some_iff.mpr ⟨_, fieldOr_of_get? distinct _ [] rewrites rules, ?_⟩
  refine Option.bind_eq_some_iff.mpr ⟨_, fieldOr_of_get? distinct _ [] styleTables tables, ?_⟩
  exact Option.bind_eq_some_iff.mpr ⟨_, fieldOr_of_get? distinct _ [] elements chains, rfl⟩

end PolicySpec

/-! ## Written forms -/

theorem numberless_encodeChain (chain : ChainSpec) : (encodeChain chain).Numberless := by
  apply numberless_list
  intro ruleSet _
  exact .record (numberless_mapValues fun entry _ => entry.2.numberless_encode)

theorem numberless_encodeAliases (aliases : Dictionary (List Text)) :
    (encodeAliases aliases).Numberless :=
  .record (numberless_mapValues fun entry _ => numberless_texts entry.2)

theorem numberless_encodePairs (pairs : Dictionary Text) : (encodePairs pairs).Numberless :=
  .record (numberless_mapValues fun _ _ => .string _)

theorem Rewrite.numberless_encode (rewrite : Rewrite) : rewrite.encode.Numberless :=
  NumberlessFields.record (.cons (numberless_encodePairs _) (.cons (.string _)
    (.cons (numberless_encodePairs _) .nil)))

theorem StyleTableSpec.numberless_encode (table : StyleTableSpec) : table.encode.Numberless :=
  NumberlessFields.record (.cons (numberless_encodeAliases _) (.cons (.record (numberless_mapValues
    fun entry _ => numberless_encodeChain entry.2)) .nil))

namespace PolicySpec

theorem numberless_encode (policy : PolicySpec) : policy.encode.Numberless := by
  have settings : NumberlessFields (encodeSettings policy) :=
    (((((numberless_encodeOptional _ .bool _).append
      (numberless_encodeOptional _ numberless_texts _)).append
      (numberless_encodeOptional _ .string _)).append
      (numberless_encodeOptional _ numberless_texts _)).append
      (numberless_encodeOptional _ numberless_texts _)).append
      (numberless_encodeOptional _ numberless_texts _)
  have rules : NumberlessFields (mapValues (fun rules => .list (rules.map Rewrite.encode))
      policy.rewrites) :=
    numberless_mapValues fun entry _ => numberless_list fun rewrite _ => rewrite.numberless_encode
  have styles : NumberlessFields (mapValues StyleTableSpec.encode policy.styleTables) :=
    numberless_mapValues fun entry _ => entry.2.numberless_encode
  have elements : NumberlessFields (mapValues encodeChain policy.elements) :=
    numberless_mapValues fun entry _ => numberless_encodeChain entry.2
  have tables : NumberlessFields (encodeTables policy) :=
    .cons (numberless_encodeAliases _) (.cons (numberless_encodeAliases _)
      (.cons (.record rules) (.cons (.record styles) (.cons (.record elements) .nil))))
  have site : (Value.record (encodeOptional "domain" .string policy.siteDomain)).Numberless :=
    .record (numberless_encodeOptional _ .string _)
  exact NumberlessFields.record (.cons site (settings.append tables))

theorem decode?_read_toJson {policy : PolicySpec} (keyed : policy.Keyed) :
    (Value.Json.read policy.toJson).bind decode? =
      if policy.encode.depth ≤ Value.Json.maxDepth then some policy else none := by
  rw [toJson, Value.Json.read_write policy.numberless_encode]
  by_cases shallow : policy.encode.depth ≤ Value.Json.maxDepth
  · rw [if_pos shallow, if_pos shallow]
    exact decode?_encode keyed
  · rw [if_neg shallow, if_neg shallow]
    rfl

/-- Policies are told apart by what they are written as. -/
theorem toJson_inj {policy other : PolicySpec} (keyed : policy.Keyed) (otherKeyed : other.Keyed) :
    policy.toJson = other.toJson ↔ policy = other := by
  refine ⟨fun sameText => ?_, congrArg toJson⟩
  have sameData : policy.encode = other.encode :=
    (Value.Json.write_inj policy.numberless_encode other.numberless_encode).mp sameText
  have reads := decode?_encode keyed
  rw [sameData, decode?_encode otherKeyed] at reads
  exact (Option.some.inj reads).symm

/-- What is read of the written form of a policy is the policy, unless its data has more collections
one inside the other than the reader takes: then the written form is refused. At any depth the bytes
that a cache key is made of belong to one policy only. -/
theorem toJson_rereads (policy : PolicySpec) (keyed : policy.Keyed) :
    (Value.Json.read policy.toJson).bind decode? =
      (if policy.encode.depth ≤ Value.Json.maxDepth then some policy else none) ∧
      ∀ other : PolicySpec, other.Keyed → Text.bytes other.toJson = Text.bytes policy.toJson →
        other = policy := by
  refine ⟨decode?_read_toJson keyed, ?_⟩
  intro other otherKeyed sameBytes
  exact (toJson_inj otherKeyed keyed).mp (Text.bytes_injective sameBytes)

/-- A policy with parts of parts, with escapes and with settings that are not written. -/
def nested : PolicySpec :=
  let part := ValidatorSpec.complex ⟨false, none, false, none, none, true⟩
    [.simple ⟨false, none, true, none, none, false⟩ (.list ["a\n", "b"] false),
      .simple ⟨false, some "", false, none, some true, false⟩ (.size ⟨none, some true, none⟩)]
    (some "\"") none
  { empty with
    verbose := some false
    elements := [("td", [[("width", .indent ⟨true, none, false, none, none, false⟩ (some part)
      none (some " ") none)], []]), ("a", [])] }

theorem toJson_rereads_nested :
    nested.Keyed ∧ { nested with elements := nested.elements.reverse }.Keyed ∧
      (Value.Json.read nested.toJson).bind decode? = some nested ∧
      Text.bytes { nested with elements := nested.elements.reverse }.toJson ≠
        Text.bytes nested.toJson := by
  have keyed : nested.Keyed :=
    ⟨by decide, by decide, by decide, by decide, by decide, by decide, by decide, by decide⟩
  have turnedKeyed : { nested with elements := nested.elements.reverse }.Keyed :=
    ⟨by decide, by decide, by decide, by decide, by decide, by decide, by decide, by decide⟩
  obtain ⟨rereads, alone⟩ := toJson_rereads nested keyed
  rw [if_pos (by decide)] at rereads
  refine ⟨keyed, turnedKeyed, rereads, ?_⟩
  intro sameBytes
  have same := alone _ turnedKeyed sameBytes
  have sameNames : keys nested.elements.reverse = keys nested.elements :=
    congrArg (fun policy => keys policy.elements) same
  exact absurd sameNames (by decide)

/-! ## Policies that are nested too deep -/

/-- A text inside so many sequences. -/
def sequences : Nat → ValidatorSpec
  | 0 => .simple .unwritten .text
  | count + 1 => .sequence .unwritten (some (sequences count)) none none none

theorem depth_sequences (count : Nat) : (sequences count).encode.depth = count + 1 := by
  induction count with
  | zero => rfl
  | succ count inductionHypothesis =>
      have entries : (sequences (count + 1)).encode =
          .record [encodeKind "sequence", ("item", (sequences count).encode)] := rfl
      rw [entries, Value.depth]
      simp only [Value.depthOfFields, encodeKind, Value.depth, inductionHypothesis, Nat.zero_max,
        Nat.max_zero]

/-- A policy of one element, with one attribute. -/
def sequenced (count : Nat) : PolicySpec :=
  { empty with elements := [("p", [[("title", sequences count)]])] }

theorem keyed_sequenced (count : Nat) : (sequenced count).Keyed := by
  refine ⟨List.nodup_nil, List.nodup_nil, List.nodup_nil, List.forall_mem_nil _, List.nodup_nil,
    List.forall_mem_nil _, List.nodup_singleton _, ?_⟩
  rw [sequenced, List.forall_mem_singleton, ChainSpec.Keyed, List.forall_mem_singleton]
  exact List.nodup_singleton _

/-- Around the validator stand the rule set, its chain, the elements and the policy. -/
theorem depth_sequenced (count : Nat) : (sequenced count).encode.depth = count + 5 := by
  have entries : (sequenced count).encode =
      .record [("site", .record []), ("element_aliases", .record []),
        ("attribute_aliases", .record []), ("rewrites", .record []), ("style_tables", .record []),
        ("elements",
          .record [("p", .list [.record [("title", (sequences count).encode)]])])] := rfl
  rw [entries]
  simp only [Value.depth, Value.depthOfItems, Value.depthOfFields, depth_sequences]
  omega

theorem read_sequenced (count : Nat) :
    (Value.Json.read (sequenced count).toJson).bind decode? =
      if count ≤ 122 then some (sequenced count) else none := by
  have bound : (sequenced count).encode.depth ≤ Value.Json.maxDepth ↔ count ≤ 122 := by
    rw [depth_sequenced, Value.Json.maxDepth]
    omega
  rw [decode?_read_toJson (keyed_sequenced count)]
  simp only [bound]

theorem sequenced_unread :
    (sequenced 123).Keyed ∧ (Value.Json.read (sequenced 123).toJson).bind decode? = none :=
  ⟨keyed_sequenced 123, read_sequenced 123⟩

end PolicySpec
end SafeMarkup
