import Mathlib.Data.List.Nodup
import ShaderDriver.Proofs.Json.Items
import ShaderDriver.Proofs.Toolchain.Order
import ShaderDriver.Toolchain.Release

namespace ShaderDriver.Release

/-- The releases that entries describe, each read alone. -/
def accepted (entries : List String) : List Release :=
  entries.filterMap fun entry => (parse entry).toOption

theorem mem_accepted {entries : List String} {release : Release} :
    release ∈ accepted entries ↔ ∃ entry ∈ entries, parse entry = .ok release := by
  unfold accepted
  rw [List.mem_filterMap]
  refine exists_congr fun entry => and_congr_right fun _ => ?_
  cases parse entry <;> simp [Except.toOption]

theorem accepted_eq {entries : List String} {values : List JsonValue}
    (read : entries.map Json.parse? = values.map some) :
    accepted entries = values.filterMap fun value => (ofValue value).toOption := by
  have alone : accepted entries = (entries.map Json.parse?).filterMap fun found =>
      found.bind fun value => (ofValue value).toOption := by
    unfold accepted parse
    rw [List.filterMap_map]
    refine List.filterMap_congr fun entry _ => ?_
    dsimp only [Function.comp_apply]
    cases Json.parse? entry <;> rfl
  rw [alone, read, List.filterMap_map]
  rfl

theorem parseListing_eq {text : String} {entries : List String} (written : Json.ArrayText text entries) :
    parseListing text = .ok (sort (accepted entries)) := by
  obtain ⟨values, read, alone⟩ := written.read
  unfold parseListing
  rw [read, accepted_eq alone]

theorem parseListing_not_array {text : String} {value : JsonValue} (read : Json.parse? text = some value)
    (other : ∀ values, value ≠ .array values) :
    parseListing text = .error (.invalidRelease "release listing is not an array") := by
  unfold parseListing
  rw [read]
  split
  · contradiction
  · next same =>
    cases same
    exact absurd rfl (other _)
  · rfl

/-- What a listing with the given entries gives. -/
structure Lists (entries : List String) (releases : List Release) : Prop where
  sorted : releases.Pairwise fun newer older => older.version ≤ newer.version
  perm : releases.Perm (accepted entries)
  listed (release : Release) : release ∈ releases ↔ ∃ entry ∈ entries, parse entry = .ok release
  stable (v : Version) : releases.filter (fun release => release.version = v) =
    (accepted entries).filter fun release => release.version = v

theorem lists_sort (entries : List String) : Lists entries (sort (accepted entries)) := by
  have perm := Version.newestFirst_perm Release.version (accepted entries)
  refine ⟨Version.newestFirst_sorted Release.version _, perm, fun release => ?_, ?_⟩
  · exact perm.mem_iff.trans mem_accepted
  · exact Version.filter_newestFirst Release.version (accepted entries)

/-- Entries that describe the same releases of each version, in the same order. -/
def Interchanged (entries entries' : List String) : Prop :=
  ∀ v, (accepted entries).filter (fun release => release.version = v) =
    (accepted entries').filter fun release => release.version = v

theorem sort_eq_iff {entries entries' : List String} :
    sort (accepted entries) = sort (accepted entries') ↔ Interchanged entries entries' :=
  Version.newestFirst_eq_iff

theorem interchanged_of_perm {entries entries' : List String}
    (perm : (accepted entries).Perm (accepted entries'))
    (apart : ((accepted entries).map Release.version).Nodup) : Interchanged entries entries' :=
  sort_eq_iff.1 (Version.newestFirst_eq_of_perm perm (List.inj_on_of_nodup_map apart))

/-- A text that is an array is cut into entries, and however it is cut, what it lists are the releases that
the entries describe alone: newest first, and those of one version as they are written. Another order of
entries of different versions does not count. A text that is something else is refused. -/
theorem parseListing_listed {text : String} {value : JsonValue} (read : Json.parse? text = some value) :
    (∀ values, value = .array values → ∃ entries, Json.ArrayText text entries) ∧
    (∀ entries, Json.ArrayText text entries → ∃ releases, parseListing text = .ok releases ∧
      Lists entries releases ∧ ∀ text' entries', Json.ArrayText text' entries' →
        (parseListing text' = .ok releases ↔ Interchanged entries entries') ∧
        ((accepted entries).Perm (accepted entries') → ((accepted entries).map Release.version).Nodup →
          parseListing text' = .ok releases)) ∧
    ((∀ values, value ≠ .array values) →
      parseListing text = .error (.invalidRelease "release listing is not an array")) := by
  refine ⟨?_, fun entries written => ?_, parseListing_not_array read⟩
  · rintro values rfl
    exact Json.exists_arrayText read
  · refine ⟨sort (accepted entries), parseListing_eq written, lists_sort entries, ?_⟩
    intro text' entries' written'
    have same : parseListing text' = .ok (sort (accepted entries)) ↔ Interchanged entries entries' := by
      rw [parseListing_eq written', Except.ok.injEq, eq_comm]
      exact sort_eq_iff
    exact ⟨same, fun perm apart => same.2 (interchanged_of_perm perm apart)⟩

/-- The releases that the items of an array describe, in the order of the items. -/
def described? (text : String) : Option (List Release) :=
  match Json.parse? text with
  | some (.array values) => some (values.filterMap fun value => (ofValue value).toOption)
  | _ => none

theorem parseListing_of_described {text : String} {releases : List Release}
    (described : described? text = some releases) :
    parseListing text = .ok (sort releases) ∧ ∃ values, Json.parse? text = some (.array values) := by
  unfold described? at described
  split at described
  · next values read =>
    cases described
    refine ⟨?_, values, read⟩
    unfold parseListing
    rw [read]
  · cases described

def older : Release := ⟨⟨1, 7, 2, 0⟩, "dxc.zip", "a"⟩

def newer : Release := ⟨⟨1, 8, 3, 0⟩, "dxc.zip", "b"⟩

/-- The older release as an object. -/
def olderEntry : String :=
  "\x7b\"tag_name\":\"1.7.2\",\"assets\":[[\"dxc.zip\",\"https://api.github.com/a\"]]\x7d"

/-- The newer release as an array. -/
def newerEntry : String := "[\"1.8.3\",[[\"dxc.zip\",\"https://api.github.com/b\"]]]"

/-- A listing with something else between the two. -/
def mixed : String := "[" ++ olderEntry ++ ", null, " ++ newerEntry ++ "]"

/-- The two in the other order. -/
def swapped : String := "[" ++ newerEntry ++ ",\n" ++ olderEntry ++ "]"

theorem parseListing_listed_mixed : ∃ entries entries', Json.ArrayText mixed entries ∧
    Json.ArrayText swapped entries' ∧ Interchanged entries entries' ∧ Lists entries [newer, older] := by
  have described : described? mixed = some [older, newer] := by decide +kernel
  have described' : described? swapped = some [newer, older] := by decide +kernel
  have sorted' : sort [newer, older] = [newer, older] := Version.newestFirst_of_sorted (by decide +kernel)
  have sorted : sort [older, newer] = [newer, older] :=
    (Version.newestFirst_eq_of_perm (List.Perm.swap newer older []) (by decide +kernel)).trans sorted'
  obtain ⟨parsed, values, read⟩ := parseListing_of_described described
  obtain ⟨parsed', values', read'⟩ := parseListing_of_described described'
  rw [sorted] at parsed
  rw [sorted'] at parsed'
  obtain ⟨cut, listed, -⟩ := parseListing_listed read
  obtain ⟨entries, written⟩ := cut values rfl
  obtain ⟨entries', written'⟩ := Json.exists_arrayText read'
  obtain ⟨releases, own, lists, others⟩ := listed entries written
  cases parsed.symm.trans own
  exact ⟨entries, entries', written, written', (others swapped entries' written').1.1 parsed', lists⟩

end ShaderDriver.Release
