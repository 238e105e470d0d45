import ConversationMemory.Proofs.Json.Follows
import ConversationMemory.Record

/-!
# Records read back

* `ofValue_toJson` for each part of a record: the value of a part is decoded as this part.
* `followsOn_toJson` for each part: so is every text that says this value.
* **`MemoryRecord.decodeText_toJson`**: a text that says a record is decoded as this record.
-/

namespace ConversationMemory

open Json Json.Decoder

theorem Json.mem_optionalField {α : Type} {key name : String} {write : α → Json} {o : Option α}
    {v : Json} (h : (name, v) ∈ optionalField key write o) : name = key ∧ ∃ a, v = write a := by
  cases o with
  | none => cases h
  | some a =>
    obtain ⟨rfl, rfl⟩ : name = key ∧ v = write a := by simpa [optionalField] using h
    exact ⟨rfl, a, rfl⟩

theorem Json.Decoder.ofValue_optional {α : Type} {d : Decoder α} {v : Json} {a : α}
    (h : d.ofValue v = .ok a) (hv : v ≠ .null) : d.optional.ofValue v = .ok (some a) := by
  have hoptional : d.optional.ofValue v = (d.ofValue v).map some := by
    cases v <;> first | exact absurd rfl hv | rfl
  rw [hoptional, h]
  rfl

/-! ## The value of a record -/

theorem KeyRef.ofValue_toJson (ref : KeyRef) : KeyRef.decoder.ofValue ref.toJson = .ok ref := rfl

theorem ServiceRef.ofValue_toJson (ref : ServiceRef) :
    ServiceRef.decoder.ofValue ref.toJson = .ok ref := by
  obtain ⟨name, _ | namespaceName, _ | port, _ | path⟩ := ref <;> rfl

theorem ValueFrom.ofValue_toJson (places : ValueFrom) :
    ValueFrom.decoder.ofValue places.toJson = .ok places := by
  obtain ⟨configMap, secret, service⟩ := places
  have keys (ref : KeyRef) : KeyRef.decoder.optional.ofValue ref.toJson = .ok (some ref) :=
    ofValue_optional ref.ofValue_toJson (fun h => nomatch h)
  have services (ref : ServiceRef) :
      ServiceRef.decoder.optional.ofValue ref.toJson = .ok (some ref) :=
    ofValue_optional ref.ofValue_toJson (fun h => nomatch h)
  cases configMap <;> cases secret <;> cases service <;>
    simp [toJson, decoder, optionalField, record, recordOfFields, defaulted, map, keys, services,
      missing?, bind, Except.bind, Except.map]

theorem AddressSpec.ofValue_toJson (spec : AddressSpec) :
    AddressSpec.decoder.ofValue spec.toJson = .ok spec := by
  obtain ⟨value, valueFrom⟩ := spec
  have places (places : ValueFrom) :
      ValueFrom.decoder.optional.ofValue places.toJson = .ok (some places) :=
    ofValue_optional places.ofValue_toJson (fun h => nomatch h)
  have texts (s : String) : text.optional.ofValue (.string s) = .ok (some s) := rfl
  cases value <;> cases valueFrom <;>
    simp [toJson, decoder, optionalField, record, recordOfFields, defaulted, map, places, texts,
      missing?, bind, Except.bind, Except.map]

theorem RecordMetadata.ofValue_toJson (metadata : RecordMetadata) :
    RecordMetadata.decoder.ofValue metadata.toJson = .ok metadata := by
  have version : nat64.ofValue (.nat metadata.resourceVersion.toNat) =
      .ok metadata.resourceVersion := by
    simp [nat64, Json.nat, toNat64]
  simp [toJson, decoder, record, recordOfFields, required, defaulted, map, version, text, missing?,
    bind, Except.bind, Except.map]

theorem MemorySpec.ofValue_toJson (spec : MemorySpec) :
    MemorySpec.decoder.ofValue spec.toJson = .ok spec := by
  obtain ⟨address, description⟩ := spec
  have texts (s : String) : text.optional.ofValue (.string s) = .ok (some s) := rfl
  cases description <;>
    simp [toJson, decoder, optionalField, record, recordOfFields, required, defaulted, map, texts,
      address.ofValue_toJson, missing?, bind, Except.bind, Except.map]

theorem MemoryStatus.ofValue_toJson (status : MemoryStatus) :
    MemoryStatus.decoder.ofValue status.toJson = .ok status := by
  obtain ⟨_ | lastResolvedAddress, _ | message⟩ := status <;> rfl

theorem MemoryRecord.ofValue_toJson (r : MemoryRecord) :
    MemoryRecord.decoder.ofValue r.toJson = .ok r := by
  simp [toJson, decoder, record, recordOfFields, required, defaulted, map,
    r.metadata.ofValue_toJson, r.spec.ofValue_toJson, r.status.ofValue_toJson, missing?, bind,
    Except.bind, Except.map]

/-! ## The text of a record -/

section

variable {levels : Nat}

theorem KeyRef.followsOn_toJson (ref : KeyRef) (h : 1 < levels) :
    KeyRef.decoder.FollowsOn levels ref.toJson := by
  refine followsOn_record h fun key value hmem => ?_
  simp only [List.mem_cons, Prod.mk.injEq, List.not_mem_nil, or_false] at hmem
  rcases hmem with ⟨rfl, rfl⟩ | ⟨rfl, rfl⟩
  · exact ⟨_, rfl, followsOn_map (followsOn_text _ _)⟩
  · exact ⟨_, rfl, followsOn_map (followsOn_text _ _)⟩

theorem ServiceRef.followsOn_toJson (ref : ServiceRef) (h : 1 < levels) :
    ServiceRef.decoder.FollowsOn levels ref.toJson := by
  refine followsOn_record h fun key value hmem => ?_
  simp only [List.cons_append, List.mem_cons, List.mem_append, Prod.mk.injEq] at hmem
  rcases hmem with ⟨rfl, rfl⟩ | (hmem | hmem) | hmem
  · exact ⟨_, rfl, followsOn_map (followsOn_text _ _)⟩
  all_goals
    obtain ⟨rfl, s, rfl⟩ := mem_optionalField hmem
    exact ⟨_, rfl, followsOn_map (followsOn_optional fun _ => followsOn_text _ _)⟩

theorem ValueFrom.followsOn_toJson (places : ValueFrom) (h : 2 < levels) :
    ValueFrom.decoder.FollowsOn levels places.toJson := by
  refine followsOn_record (by omega) fun key value hmem => ?_
  simp only [List.mem_append] at hmem
  rcases hmem with (hmem | hmem) | hmem
  · obtain ⟨rfl, ref, rfl⟩ := mem_optionalField hmem
    exact ⟨_, rfl, followsOn_map (followsOn_optional fun _ => ref.followsOn_toJson (by omega))⟩
  · obtain ⟨rfl, ref, rfl⟩ := mem_optionalField hmem
    exact ⟨_, rfl, followsOn_map (followsOn_optional fun _ => ref.followsOn_toJson (by omega))⟩
  · obtain ⟨rfl, ref, rfl⟩ := mem_optionalField hmem
    exact ⟨_, rfl, followsOn_map (followsOn_optional fun _ => ref.followsOn_toJson (by omega))⟩

theorem AddressSpec.followsOn_toJson (spec : AddressSpec) (h : 3 < levels) :
    AddressSpec.decoder.FollowsOn levels spec.toJson := by
  refine followsOn_record (by omega) fun key value hmem => ?_
  simp only [List.mem_append] at hmem
  rcases hmem with hmem | hmem
  · obtain ⟨rfl, s, rfl⟩ := mem_optionalField hmem
    exact ⟨_, rfl, followsOn_map (followsOn_optional fun _ => followsOn_text _ _)⟩
  · obtain ⟨rfl, places, rfl⟩ := mem_optionalField hmem
    exact ⟨_, rfl, followsOn_map (followsOn_optional fun _ => places.followsOn_toJson (by omega))⟩

theorem RecordMetadata.followsOn_toJson (metadata : RecordMetadata) (h : 1 < levels) :
    RecordMetadata.decoder.FollowsOn levels metadata.toJson := by
  refine followsOn_record h fun key value hmem => ?_
  simp only [List.mem_cons, Prod.mk.injEq, List.not_mem_nil, or_false] at hmem
  rcases hmem with ⟨rfl, rfl⟩ | ⟨rfl, rfl⟩ | ⟨rfl, rfl⟩ | ⟨rfl, rfl⟩
  · exact ⟨_, rfl, followsOn_map (followsOn_text _ _)⟩
  · exact ⟨_, rfl, followsOn_map (followsOn_text _ _)⟩
  · exact ⟨_, rfl, followsOn_map (followsOn_text _ _)⟩
  · refine ⟨_, rfl, followsOn_map (followsOn_nat64 _ ?_)⟩
    have := metadata.resourceVersion.toNat_lt_size
    rw [maxNat64]
    omega

theorem MemorySpec.followsOn_toJson (spec : MemorySpec) (h : 4 < levels) :
    MemorySpec.decoder.FollowsOn levels spec.toJson := by
  refine followsOn_record (by omega) fun key value hmem => ?_
  simp only [List.mem_cons, Prod.mk.injEq] at hmem
  rcases hmem with ⟨rfl, rfl⟩ | hmem
  · exact ⟨_, rfl, followsOn_map (spec.address.followsOn_toJson (by omega))⟩
  · obtain ⟨rfl, s, rfl⟩ := mem_optionalField hmem
    exact ⟨_, rfl, followsOn_map (followsOn_optional fun _ => followsOn_text _ _)⟩

theorem MemoryStatus.followsOn_toJson (status : MemoryStatus) (h : 1 < levels) :
    MemoryStatus.decoder.FollowsOn levels status.toJson := by
  refine followsOn_record h fun key value hmem => ?_
  simp only [List.mem_append] at hmem
  rcases hmem with hmem | hmem
  all_goals
    obtain ⟨rfl, s, rfl⟩ := mem_optionalField hmem
    exact ⟨_, rfl, followsOn_map (followsOn_optional fun _ => followsOn_text _ _)⟩

theorem MemoryRecord.followsOn_toJson (r : MemoryRecord) (h : 5 < levels) :
    MemoryRecord.decoder.FollowsOn levels r.toJson := by
  refine followsOn_record (by omega) fun key value hmem => ?_
  simp only [List.mem_cons, Prod.mk.injEq, List.not_mem_nil, or_false] at hmem
  rcases hmem with ⟨rfl, rfl⟩ | ⟨rfl, rfl⟩ | ⟨rfl, rfl⟩
  · exact ⟨_, rfl, followsOn_map (r.metadata.followsOn_toJson (by omega))⟩
  · exact ⟨_, rfl, followsOn_map (r.spec.followsOn_toJson (by omega))⟩
  · exact ⟨_, rfl, followsOn_map (r.status.followsOn_toJson (by omega))⟩

end

/-- **A text that says a record is decoded as this record.** -/
theorem MemoryRecord.decodeText_toJson (r : MemoryRecord) {s : String}
    (spells : Spells r.toJson s.toList) : MemoryRecord.decoder.decodeText s = .ok r :=
  decodeText_of_spells spells (r.followsOn_toJson (by decide)) r.ofValue_toJson

theorem MemoryRecord.decodeText_pretty (r : MemoryRecord) :
    MemoryRecord.decoder.decodeText r.toJson.pretty = .ok r :=
  r.decodeText_toJson (by simpa [pretty] using prettyChars_spells 0 r.toJson)

end ConversationMemory
