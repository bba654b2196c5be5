import Rego.Proofs.Builtin.Forming
import Rego.Proofs.Builtin.Stability
import Rego.Proofs.Value.Preserving
import Rego.Proofs.Value.RoundTrip

/-!
# Every produced value is canonical

A call of this library on well-formed arguments gives a well-formed value or none, and keeps nothing
but well-formed results; a repeated result is as well-formed as the cache it comes from
(`formed_invoke`). So over all calls of a query the kept results stay well-formed
(`wellFormed_cache_run`). Together with decoding and merging these are all the places where values
come from (`produced_canonical`).
-/

namespace Rego

set_option autoImplicit false

/-- All kept results are well-formed. -/
def Cache.WellFormed (cache : Cache) : Prop := ∀ entry ∈ cache, entry.value.WellFormed

theorem Cache.WellFormed.of_get? {cache : Cache} {name : String} {arguments : List Value}
    {value : Value} (formed : cache.WellFormed)
    (known : cache.get? name arguments = some value) : value.WellFormed := by
  obtain ⟨entry, member, _, _, rfl⟩ := Cache.exists_entry_of_get? known
  exact formed entry member

/-- Keeping a well-formed result, in place of another or not, keeps a cache well-formed. -/
theorem Cache.WellFormed.put {cache : Cache} (formed : cache.WellFormed) {value : Value}
    (new : value.WellFormed) (name : String) (arguments : List Value) :
    (cache.put name arguments value).WellFormed := by
  unfold Cache.put
  split
  · refine List.forall_mem_map.mpr fun entry member => ?_
    split
    · exact new
    · exact formed entry member
  · exact List.forall_mem_append.mpr ⟨formed, List.forall_mem_singleton.mpr new⟩

/-- A call gave a well-formed value or none, and left well-formed results in the cache. -/
structure Formed {ε : Type} (result : Except ε Value × Query) : Prop where
  value : ∀ value, result.1 = .ok value → value.WellFormed
  cache : result.2.cache.WellFormed

namespace Registry

variable {context : Context} {name : String} {builtin : Builtin} {arguments : List Value}
  {strict : Bool} {query : Query} {overtaxes : List Value → Cause → Prop}

/-! ## One call -/

/-- A checked call repeats a kept result, or gives and possibly keeps what the builtin made. -/
theorem formed_perform (sound : builtin.SoundUnless overtaxes) (forming : builtin.Forming)
    (counted : arguments.length = builtin.metadata.arity)
    (formed : ∀ argument ∈ arguments, argument.WellFormed) (cached : query.cache.WellFormed) :
    Formed (perform context name builtin arguments query) := by
  have keeps := sound.keeps context arguments query counted
  have forms := forming context arguments query counted formed
  rcases perform_cases context name builtin arguments query with ⟨_, same⟩ |
    ⟨_, value, known, same⟩ | ⟨_, _, ⟨value, after, ran, same⟩ | ⟨error, after, ran, same⟩⟩
  · rw [same]
    exact ⟨forms, keeps ▸ cached⟩
  · rw [same]
    refine ⟨fun given repeated => ?_, cached⟩
    cases repeated
    exact cached.of_get? known
  · rw [ran] at keeps forms
    rw [same]
    have made := forms value rfl
    refine ⟨fun given repeated => ?_, Cache.WellFormed.put (keeps ▸ cached) made name arguments⟩
    cases repeated
    exact made
  · rw [ran] at keeps
    rw [same]
    exact ⟨nofun, keeps ▸ cached⟩

theorem formed_checkAndPerform (sound : builtin.SoundUnless overtaxes) (forming : builtin.Forming)
    (formed : ∀ argument ∈ arguments, argument.WellFormed) (cached : query.cache.WellFormed) :
    Formed (checkAndPerform context name builtin arguments query) := by
  cases checked : check name builtin.metadata.declaration arguments with
  | error error =>
      rw [checkAndPerform_of_check_eq_error checked]
      exact ⟨nofun, cached⟩
  | ok _ =>
      rw [checkAndPerform_of_check_eq_ok checked]
      exact formed_perform sound forming (length_eq_of_check_eq_ok sound.fixed checked) formed
        cached

/-- **A call of this library on well-formed arguments gives a well-formed value or none, and keeps
nothing but well-formed results.** -/
theorem formed_invoke (formed : ∀ argument ∈ arguments, argument.WellFormed)
    (cached : query.cache.WellFormed) (context : Context) (name : String) (strict : Bool) :
    Formed (standard.invoke context name arguments strict query) := by
  cases found : standard.find? name with
  | none =>
      rw [invoke_of_find?_eq_none found]
      exact ⟨nofun, cached⟩
  | some builtin =>
      rw [invoke_of_find? found]
      have called : Formed (checkAndPerform context name builtin arguments query) :=
        formed_checkAndPerform (standard_sound name builtin found) (standard_forming found) formed
          cached
      refine ⟨fun value settled => ?_, called.cache⟩
      rcases settle_eq_ok settled with given | undefined
      · exact called.value value given
      · rw [undefined]
        trivial

end Registry

/-! ## All calls of a query -/

/-- **The kept results of a query stay well-formed over all its calls.** -/
theorem Call.wellFormed_cache_run {calls : List Call}
    (formed : ∀ call ∈ calls, ∀ argument ∈ call.arguments, argument.WellFormed) {query : Query}
    (cached : query.cache.WellFormed) (root : Context) :
    (run root calls query).cache.WellFormed := by
  induction calls generalizing query with
  | nil => exact cached
  | cons call rest ih =>
      obtain ⟨first, later⟩ := List.forall_mem_cons.mp formed
      exact ih later (Registry.formed_invoke first cached _ call.name call.strict).cache

/-! ## All sources of values -/

open Registry

/-- **Every produced value is canonical.** Decoding gives canonical values only; a merge of
canonical trees leaves a canonical one, whether or not it met a conflict, and so does a patch that
succeeds; and a call of this library with canonical arguments and kept results gives a canonical
value or none, and keeps nothing but canonical results. -/
theorem produced_canonical :
    (∀ bytes value, Value.decode bytes = .ok value → value.Canonical) ∧
    (∀ text value, Value.decodeText text = .ok value → value.Canonical) ∧
    (∀ base overlay : Value, base.Canonical → overlay.Canonical → ∀ path,
      (base.mergeAt path overlay).value.Canonical ∧
      ∀ value, base.patch path overlay = .ok value → value.Canonical) ∧
    ∀ context name arguments strict query,
      (∀ argument ∈ arguments, argument.Canonical) →
      (∀ entry ∈ query.cache, entry.value.Canonical) →
      (∀ value, (standard.invoke context name arguments strict query).1 = .ok value →
        value.Canonical) ∧
      ∀ entry ∈ (standard.invoke context name arguments strict query).2.cache,
        entry.value.Canonical := by
  simp only [Value.canonical_iff_wellFormed]
  refine ⟨?bytes, ?text, ?merge, ?call⟩
  case bytes => exact fun bytes value => Value.wellFormed_of_decode
  case text => exact fun text value => Value.wellFormed_of_decode
  case merge =>
    intro base overlay formed formed' path
    exact ⟨Value.wellFormed_mergeAt formed formed' path,
      fun value => Value.wellFormed_of_patch formed formed'⟩
  case call =>
    intro context name arguments strict query formed cached
    have called := formed_invoke formed cached context name strict
    exact ⟨called.value, called.cache⟩

/-- An object that repeats a key. -/
def repeating : Document := .object [("b", .null), ("a", .array [.bool true]), ("b", .bool false)]

/-- The text of `repeating`. -/
def repeatingText : String := "\x7b\"b\":null,\"a\":[true],\"b\":false\x7d"

/-- What `repeating` stands for. -/
def repeated : Value := .object [(.string "a", .array [.bool true]), (.string "b", .bool false)]

/-- A repeated key, a merge that stops half-way, a patch at another place, and a big integer that
shrinks to a word. -/
theorem produced_canonical_shrunk :
    (Value.decodeText repeatingText = .ok repeated ∧ repeated.Canonical) ∧
    (let base : Value := .object [(.string "a", .bool true), (.string "c", .set [])]
      let overlay : Value := .object [(.null, .set [.null, .bool true]), (.string "a", .null)]
      (base.mergeAt [] overlay).conflict = some "a" ∧ (base.mergeAt [] overlay).value.Canonical ∧
      ∃ value, base.patch ["b"] overlay = .ok value ∧ value.Canonical) ∧
    (standard.invoke ⟨none, false, 0⟩ "minus" [.ofInt (2 ^ 63), .ofInt 1] false
        ⟨[⟨"rand.intn", [.string "roll", .ofInt 10], .ofInt 7⟩], .cycling [1], []⟩).1 =
        .ok (.number (.word 9223372036854775807)) ∧
      (Value.number (.word 9223372036854775807)).Canonical := by
  refine ⟨?text, ?merge, ?call⟩
  case text =>
    have text : repeating.text = repeatingText := rfl
    have numerals : Json.HasNumerals repeating := ⟨trivial, ⟨trivial, trivial⟩, trivial, trivial⟩
    have found : Value.ofDocument? repeating = some repeated := rfl
    have read := Value.decode_of_ofBytes? (Document.ofBytes?_text numerals) (by decide) found
    rw [text] at read
    exact ⟨read, produced_canonical.2.1 _ _ read⟩
  case merge =>
    intro base overlay
    have canonical : base.Canonical := Value.canonical_iff_wellFormed.mpr
      ⟨⟨trivial, trivial, trivial, ⟨trivial, .nil⟩, trivial⟩, by decide +kernel⟩
    have canonical' : overlay.Canonical := Value.canonical_iff_wellFormed.mpr
      ⟨⟨trivial, ⟨⟨trivial, trivial, trivial⟩, by decide +kernel⟩, trivial, trivial, trivial⟩,
        by decide +kernel⟩
    have merges := produced_canonical.2.2.1 base overlay canonical canonical'
    have met : (base.mergeAt [] overlay).conflict = some "a" := rfl
    have free : (base.mergeAt ["b"] overlay).conflict = none := rfl
    have patched : base.patch ["b"] overlay = .ok (base.mergeAt ["b"] overlay).value := by
      unfold Value.patch
      simp only [free]
    exact ⟨met, (merges []).1, _, patched, (merges ["b"]).2 _ patched⟩
  case call =>
    let query : Query := ⟨[⟨"rand.intn", [.string "roll", .ofInt 10], .ofInt 7⟩], .cycling [1], []⟩
    have given : (standard.invoke ⟨none, false, 0⟩ "minus" [.ofInt (2 ^ 63), .ofInt 1] false
        query).1 = .ok (.number (.word 9223372036854775807)) := rfl
    have formed : ∀ argument ∈ [Value.ofInt (2 ^ 63), .ofInt 1], argument.Canonical := by
      simp only [List.forall_mem_cons, Value.canonical_iff_wellFormed]
      exact ⟨trivial, trivial, List.forall_mem_nil _⟩
    have cached : ∀ entry ∈ query.cache, entry.value.Canonical :=
      List.forall_mem_singleton.mpr (Value.canonical_iff_wellFormed.mpr trivial)
    exact ⟨given, (produced_canonical.2.2.2 _ _ _ false query formed cached).1 _ given⟩

end Rego
