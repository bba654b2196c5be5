import Rego.Proofs.Builtin.Calls
import Rego.Proofs.Uuid
import Rego.Proofs.Value.Fields

/-!
# Calls that draw and read identifiers

A call for an identifier whose label has no kept result draws sixteen bytes and gives the text of
the identifier made of them (`invoke_rfc4122`), and any sixteen bytes may be drawn
(`exists_sixteenBytes`). A call that reads an identifier describes the bytes that the text stands
for, whatever its form (`gives_parse`). The description lists what the version has to tell
(`exists_describe`).
-/

namespace Rego

set_option autoImplicit false

namespace Generator

/-! ## Drawn bytes -/

theorem length_sixteenBytes (generator : Generator) : generator.sixteenBytes.1.length = 16 := rfl

/-- The number whose bytes these are, least significant first. -/
def bytesValue (bytes : List UInt8) : Nat :=
  bytes.foldr (fun byte rest => byte.toNat + 256 * rest) 0

theorem bytesValue_lt (bytes : List UInt8) : bytesValue bytes < 256 ^ bytes.length := by
  induction bytes with
  | nil => exact Nat.one_pos
  | cons byte rest ih =>
      have range := byte.toNat_lt
      have value : bytesValue (byte :: rest) = byte.toNat + 256 * bytesValue rest := rfl
      rw [value, List.length_cons, Nat.pow_succ]
      omega

theorem bytesValue_div (bytes : List UInt8) (index : Nat) :
    bytesValue bytes / 256 ^ index % 256 = (bytes.getD index 0).toNat := by
  induction bytes generalizing index with
  | nil => rw [bytesValue, List.foldr_nil, Nat.zero_div]; rfl
  | cons byte rest ih =>
      have range := byte.toNat_lt
      have value : bytesValue (byte :: rest) = byte.toNat + 256 * bytesValue rest := rfl
      rw [value]
      cases index with
      | zero =>
          rw [Nat.pow_zero, Nat.div_one, List.getD_cons_zero]
          omega
      | succ index =>
          have shifted : (byte.toNat + 256 * bytesValue rest) / 256 = bytesValue rest := by omega
          rw [Nat.pow_succ', ← Nat.div_div_eq_div_mul, shifted, List.getD_cons_succ, ih]

/-- Any eight bytes are the bytes of a word. -/
theorem exists_wordBytes {bytes : List UInt8} (size : bytes.length = 8) :
    ∃ word, wordBytes word = bytes := by
  refine ⟨UInt64.ofNat (bytesValue bytes), List.ext_getElem size.symm fun index _ _ => ?_⟩
  have below := bytesValue_lt bytes
  rw [size] at below
  have value : (UInt64.ofNat (bytesValue bytes)).toNat = bytesValue bytes :=
    UInt64.toNat_ofNat_of_lt below
  simp only [wordBytes, List.getElem_map, List.getElem_range]
  rw [value, bytesValue_div, UInt8.ofNat_toNat, List.getElem_eq_getD 0]

/-- **Any sixteen bytes are drawn by some generator.** -/
theorem exists_sixteenBytes {bytes : List UInt8} (size : bytes.length = 16) :
    ∃ generator : Generator, generator.sixteenBytes.1 = bytes := by
  obtain ⟨first, one⟩ := @exists_wordBytes (bytes.take 8) (by rw [List.length_take, size]; rfl)
  obtain ⟨second, two⟩ := @exists_wordBytes (bytes.drop 8) (by rw [List.length_drop, size])
  refine ⟨cycling [first, second], ?_⟩
  have drawn : (cycling [first, second]).sixteenBytes.1 = wordBytes first ++ wordBytes second := rfl
  rw [drawn, one, two, List.take_append_drop]

end Generator

namespace Builtin

open Registry (Gives)

/-! ## Descriptions -/

namespace Encodings

/-- The names in the description of an identifier of a version. -/
def Tells (version : Nat) (name : String) : Prop :=
  name ∈ ["version", "variant"] ∨ (name = "time" ∧ version ∈ [1, 2, 6, 7]) ∨
    (name ∈ ["nodeid", "macvariables", "clocksequence"] ∧ version ∈ [1, 2]) ∨
    name ∈ ["id", "domain"] ∧ version = 2

theorem tells_time_iff (version : Nat) : Tells version "time" ↔ version ∈ [1, 2, 6, 7] := by
  simp [Tells]

theorem tells_node_iff (version : Nat) {name : String}
    (node : name ∈ ["nodeid", "macvariables", "clocksequence"]) :
    Tells version name ↔ version ∈ [1, 2] := by
  simp only [List.mem_cons, List.not_mem_nil, or_false] at node
  rcases node with rfl | rfl | rfl <;> simp [Tells]

/-- **A description has the names that the version tells, and no others.** -/
theorem exists_describe (identifier : List UInt8) :
    ∃ fields, describe identifier = .object fields ∧
      Fields.get? (.string "version") fields = some (.ofNat (Uuid.version identifier)) ∧
      ∀ name, (Fields.get? (.string name) fields).isSome ↔
        Tells (Uuid.version identifier) name := by
  refine ⟨_, rfl, ?_, fun name => ?_⟩
  · rw [Fields.get?_ofNamed]
    split <;> split <;> split <;> rfl
  · rw [Fields.isSome_get?_ofNamed, List.map_append, List.map_append, List.map_append,
      List.mem_append, List.mem_append, List.mem_append, or_assoc, or_assoc, Tells,
      ← Uuid.isSome_nanoseconds?_iff]
    refine or_congr Iff.rfl (or_congr ?time (or_congr ?node ?owner))
    case time =>
      cases Uuid.nanoseconds? identifier with
      | none => simp
      | some _ => simp
    case node =>
      split
      · next known => simp [known]
      · next other => simp [other]
    case owner =>
      split
      · next known => simp [known]
      · next other => simp [other]

theorem describe_ofRandom {drawn : List UInt8} (whole : drawn.length = 16) :
    describe (Uuid.ofRandom drawn) =
      .object [(.string "variant", .string "RFC4122"), (.string "version", .ofNat 4)] := by
  have timeless : Uuid.nanoseconds? (Uuid.ofRandom drawn) = none := by
    rw [← Option.not_isSome_iff_eq_none, Uuid.isSome_nanoseconds?_iff, Uuid.version_ofRandom whole]
    decide
  simp only [describe, timeless, Uuid.version_ofRandom whole, Uuid.variant_ofRandom whole]
  rfl

theorem parseIdentifier_string (name written : String) :
    parseIdentifier name (.string written) =
      match Uuid.read? written.toList with
      | some identifier => .ok (describe identifier)
      | none => .ok .undefined := rfl

/-- **A text in any form is described as the bytes that it stands for.** -/
theorem gives_parse {identifier : List UInt8} (whole : identifier.length = 16) {form : Uuid.Form}
    {written : String} (same : Text.Recased written.toList (form.write identifier)) :
    Gives "uuid.parse" [.string written] (describe identifier) := by
  have found : Registry.standard.find? "uuid.parse" =
      some (unary Declared.uuidParse parseIdentifier) := rfl
  have ran := parseIdentifier_string Declared.uuidParse.name written
  rw [Uuid.read?_recased whole same] at ran
  exact Registry.gives_of_run found (by decide) (Registry.check_ok rfl rfl) ran

end Encodings

namespace Effects

variable {context : Context} {label : String} {strict : Bool} {query : Query}

/-- A call draws sixteen bytes and gives a text. -/
def Issues (drawn : List UInt8) (written : String) : Prop :=
  ∃ (context : Context) (label : String) (strict : Bool) (query after : Query),
    query.cache.get? "uuid.rfc4122" [.string label] = none ∧
    query.generator.sixteenBytes.1 = drawn ∧
    Registry.standard.invoke context "uuid.rfc4122" [.string label] strict query =
      (.ok (.string written), after)

theorem find?_rfc4122 : Registry.standard.find? "uuid.rfc4122" = some ⟨Declared.uuidRfc4122,
    .stateful fun _ arguments query =>
      match arguments with
      | [label] => randomIdentifier Declared.uuidRfc4122.name label query
      | _ => (wrongCount Declared.uuidRfc4122.name 1, query)⟩ := rfl

/-- **A call without a kept result gives the identifier made of the drawn bytes.** -/
theorem invoke_rfc4122 (fresh : query.cache.get? "uuid.rfc4122" [.string label] = none) :
    ∃ after, Registry.standard.invoke context "uuid.rfc4122" [.string label] strict query =
      (.ok (.string (String.ofList (Uuid.text (Uuid.ofRandom query.generator.sixteenBytes.1)))),
        after) := by
  rw [Registry.invoke_of_find? find?_rfc4122,
    Registry.checkAndPerform_of_check_eq_ok (Registry.check_ok rfl rfl),
    Registry.perform_of_run_eq_ok (by decide) fresh rfl]
  exact ⟨_, rfl⟩

/-- What is issued for drawn bytes is the text of the identifier made of them. -/
theorem Issues.spec {drawn : List UInt8} {written : String} (issues : Issues drawn written) :
    drawn.length = 16 ∧ written.toList = Uuid.text (Uuid.ofRandom drawn) := by
  obtain ⟨context, label, strict, query, after, fresh, rfl, issued⟩ := issues
  obtain ⟨after', given⟩ := @invoke_rfc4122 context label strict query fresh
  have same := Except.ok.inj (Prod.mk.inj (issued.symm.trans given)).1
  rw [Value.string.inj same, String.toList_ofList]
  exact ⟨query.generator.length_sixteenBytes, rfl⟩

/-- **Random identifiers are of version four and carry all their randomness.** A call without a kept
result has a text for an answer, and any sixteen bytes are drawn for some text. The text is the
lower-case digits of an identifier with hyphens between, 36 characters in all; on all bits but those
of the version and the variant the identifier agrees with the drawn bytes, so that draws have one
text exactly if they agree on these bits; and it is described as version four and nothing else.

An identifier is described in one way, whatever the form and the letter case of its text. The
description has a time exactly for the versions 1, 2, 6 and 7, and a node with its scope and a clock
sequence exactly for the versions 1 and 2. -/
theorem identifiers_carry_randomness :
    (∀ (context : Context) (label : String) (strict : Bool) (query : Query),
      query.cache.get? "uuid.rfc4122" [.string label] = none →
      ∃ written after,
        Registry.standard.invoke context "uuid.rfc4122" [.string label] strict query =
          (.ok (.string written), after)) ∧
    (∀ drawn : List UInt8, drawn.length = 16 → ∃ written, Issues drawn written) ∧
    (∀ (drawn : List UInt8) (written : String), Issues drawn written →
      written.toList.length = 36 ∧ (∃ parts, Uuid.Hyphenated written.toList parts) ∧
      (∃ identifier, Uuid.read? written.toList = some identifier ∧
        written.toList = Uuid.text identifier ∧ identifier.length = 16 ∧
        ∀ index, identifier.getD index 0 &&& Uuid.drawnBits index =
          drawn.getD index 0 &&& Uuid.drawnBits index) ∧
      Gives "uuid.parse" [.string written]
        (.object [(.string "variant", .string "RFC4122"), (.string "version", .ofNat 4)])) ∧
    (∀ (drawn drawn' : List UInt8) (written written' : String),
      Issues drawn written → Issues drawn' written' →
      (written = written' ↔ ∀ index, drawn.getD index 0 &&& Uuid.drawnBits index =
        drawn'.getD index 0 &&& Uuid.drawnBits index)) ∧
    ∀ identifier : List UInt8, identifier.length = 16 → ∃ fields,
      (∀ (form : Uuid.Form) (written : String),
        Text.Recased written.toList (form.write identifier) →
        Gives "uuid.parse" [.string written] (.object fields)) ∧
      Fields.get? (.string "version") fields = some (.ofNat (Uuid.version identifier)) ∧
      ((Fields.get? (.string "time") fields).isSome ↔ Uuid.version identifier ∈ [1, 2, 6, 7]) ∧
      ∀ name ∈ ["nodeid", "macvariables", "clocksequence"],
        ((Fields.get? (.string name) fields).isSome ↔ Uuid.version identifier ∈ [1, 2]) := by
  refine ⟨fun context label strict query fresh => ⟨_, invoke_rfc4122 fresh⟩, fun drawn whole => ?_,
    fun drawn written issues => ?_, fun drawn drawn' written written' one two => ?_,
    fun identifier whole => ?_⟩
  · obtain ⟨generator, drew⟩ := Generator.exists_sixteenBytes whole
    obtain ⟨after, issued⟩ := @invoke_rfc4122 ⟨none, false, 0⟩ "" true ⟨[], generator, []⟩ rfl
    exact ⟨_, ⟨none, false, 0⟩, "", true, ⟨[], generator, []⟩, after, rfl, drew, issued⟩
  · obtain ⟨whole, same⟩ := issues.spec
    have size := (Uuid.length_ofRandom drawn).trans whole
    have form : Text.Recased written.toList (Uuid.Form.hyphenated.write (Uuid.ofRandom drawn)) := by
      rw [same]
      exact Text.Recased.refl _
    have length : written.toList.length = 36 := by rw [same, Uuid.length_text size]
    have given := Encodings.gives_parse size form
    rw [Encodings.describe_ofRandom whole] at given
    exact ⟨length, ⟨_, same ▸ Uuid.hyphenated_text size⟩,
      ⟨_, Uuid.read?_recased size form, same, size, Uuid.ofRandom_agrees drawn⟩, given⟩
  · obtain ⟨whole, same⟩ := one.spec
    obtain ⟨whole', same'⟩ := two.spec
    rw [← Uuid.text_ofRandom_eq_iff whole whole', ← same, ← same', String.toList_inj]
  · obtain ⟨fields, described, version, names⟩ := Encodings.exists_describe identifier
    refine ⟨fields, fun form written same => described ▸ Encodings.gives_parse whole same, version,
      ?_, fun name node => ?_⟩
    · rw [names, Encodings.tells_time_iff]
    · rw [names, Encodings.tells_node_iff _ node]

/-- Words that are drawn byte by byte, and an identifier of version one in upper case. -/
theorem identifiers_carry_randomness_samples :
    (∃ after, Registry.standard.invoke ⟨none, false, 0⟩ "uuid.rfc4122" [.string "k"] true
        ⟨[], .cycling [0xFF06050403020100, 0x0F0E0D0C0B0A09FF], []⟩ =
          (.ok (.string "00010203-0405-46ff-bf09-0a0b0c0d0e0f"), after)) ∧
    Gives "uuid.parse" [.string "00010203-0405-46ff-bf09-0a0b0c0d0e0f"]
      (.object [(.string "variant", .string "RFC4122"), (.string "version", .ofNat 4)]) ∧
    ∃ fields, Gives "uuid.parse" [.string "URN:UUID:C0B4D92A-15D6-11EE-BE56-0242AC120002"]
        (.object fields) ∧
      (Fields.get? (.string "time") fields).isSome ∧
      (Fields.get? (.string "nodeid") fields).isSome := by
  obtain ⟨answers, _, issued, _, described⟩ := identifiers_carry_randomness
  obtain ⟨written, after, given⟩ := answers ⟨none, false, 0⟩ "k" true
    ⟨[], .cycling [0xFF06050403020100, 0x0F0E0D0C0B0A09FF], []⟩ rfl
  have issues : Issues [0, 1, 2, 3, 4, 5, 6, 0xFF, 0xFF, 9, 10, 11, 12, 13, 14, 15] written :=
    ⟨_, _, _, _, _, rfl, by decide +kernel, given⟩
  have text : written = "00010203-0405-46ff-bf09-0a0b0c0d0e0f" := by
    rw [← String.toList_inj, issues.spec.2]
    decide +kernel
  subst text
  obtain ⟨fields, gives, _, time, node⟩ := described [0xC0, 0xB4, 0xD9, 0x2A, 0x15, 0xD6, 0x11,
    0xEE, 0xBE, 0x56, 0x02, 0x42, 0xAC, 0x12, 0x00, 0x02] rfl
  exact ⟨⟨after, given⟩, (issued _ _ issues).2.2.2, fields, gives .urn _ (by decide +kernel),
    time.mpr (by decide), (node "nodeid" (by decide)).mpr (by decide)⟩

end Effects

end Builtin

end Rego
