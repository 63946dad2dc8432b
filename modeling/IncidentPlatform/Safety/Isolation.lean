import IncidentPlatform.Agents.Memory

/-!
# Whose snippets a search returns

All incidents share one namespace, and the id in the query only ranks what is in it. The memory
after some calls has one item for every incident with a text that is not blank, so a search with
room for all of them tells how many there are. Isolation then means that no other incident has one.
-/

namespace IncidentPlatform

open Encoding

/-- The memory of `incidentId` is isolated after `calls`. -/
structure Isolated (t : Text) (enabled : Bool) (calls : List (String × String))
    (incidentId : String) : Prop where
  /-- A search returns texts that were indexed for the incident. -/
  own : ∀ (query : String) (limit : ℤ),
    ∀ text ∈ searchIncidentMemory t enabled (memoryAfter t enabled calls) incidentId query limit,
      (incidentId, text) ∈ calls
  /-- The calls for other incidents do not change the result. -/
  unchanged : ∀ (query : String) (limit : ℤ),
    searchIncidentMemory t enabled (memoryAfter t enabled calls) incidentId query limit =
      searchIncidentMemory t enabled
        (memoryAfter t enabled (calls.filter fun call ↦ call.1 = incidentId)) incidentId query limit
  /-- And they do not change the prompt of the planner. -/
  prompt : ∀ (incident : IncidentRecord) (allowed : List ActionType),
    incident.incidentId = incidentId →
      formatUser t enabled (memoryAfter t enabled calls) incident allowed =
        formatUser t enabled
          (memoryAfter t enabled (calls.filter fun call ↦ call.1 = incidentId)) incident allowed

/-- The call puts a snippet into the memory. -/
def Snippet (t : Text) (call : String × String) : Prop := t.strip call.2 ≠ ""

variable (t : Text) (calls : List (String × String)) (incidentId : String)

/-! ## The items of the memory -/

/-- The snippets of all incidents. -/
def snippets : List (PyStr × String) := (memoryAfter t true calls).values "incidents"

theorem memoryAfter_append (enabled : Bool) (call : String × String) :
    memoryAfter t enabled (calls ++ [call]) =
      indexIncidentSnippet t enabled (memoryAfter t enabled calls) call.1 call.2 :=
  List.foldl_append

theorem snippets_append_of_blank {call : String × String} (h : ¬ Snippet t call) :
    snippets t (calls ++ [call]) = snippets t calls := by
  have hblank : t.strip call.2 = "" := not_not.mp h
  rw [snippets, memoryAfter_append, indexIncidentSnippet, if_pos (by simp [hblank]), snippets]

theorem snippets_append {call : String × String} (h : Snippet t call) :
    snippets t (calls ++ [call]) =
      setItem (codePoints (memoryKey call.1)) call.2 (snippets t calls) := by
  have hblank : ¬ (!true || (t.strip call.2).isEmpty) = true := by
    simpa [Snippet, String.isEmpty_iff] using h
  rw [snippets, memoryAfter_append, indexIncidentSnippet, if_neg hblank,
    KnowledgeStore.values_index, snippets]

theorem nodup_keys_snippets : (keys (snippets t calls)).Nodup := by
  induction calls using List.reverseRecOn with
  | nil => exact List.nodup_nil
  | append_singleton calls call ih =>
    by_cases hcall : Snippet t call
    · rw [snippets_append t calls hcall]
      exact nodup_keys_setItem ih
    · rw [snippets_append_of_blank t calls hcall]
      exact ih

theorem mem_keys_snippets {key : PyStr} : key ∈ keys (snippets t calls) ↔
    ∃ call ∈ calls, Snippet t call ∧ key = codePoints (memoryKey call.1) := by
  induction calls using List.reverseRecOn with
  | nil => simp [snippets, memoryAfter, KnowledgeStore.values, lookup, keys]
  | append_singleton calls call ih =>
    have hsplit : (∃ c ∈ calls ++ [call], Snippet t c ∧ key = codePoints (memoryKey c.1)) ↔
        (∃ c ∈ calls, Snippet t c ∧ key = codePoints (memoryKey c.1)) ∨
          (Snippet t call ∧ key = codePoints (memoryKey call.1)) := by
      simp only [List.mem_append, List.mem_singleton, or_and_right, exists_or, exists_eq_left]
    rw [hsplit, ← ih]
    by_cases hcall : Snippet t call
    · rw [snippets_append t calls hcall, mem_keys_setItem]
      simp only [hcall, true_and]
      exact or_comm
    · rw [snippets_append_of_blank t calls hcall]
      simp only [hcall, false_and, or_false]

/-- A snippet was indexed. -/
theorem exists_call_of_mem_snippets {item : PyStr × String} (h : item ∈ snippets t calls) :
    ∃ call ∈ calls, Snippet t call ∧ call.2 = item.2 := by
  induction calls using List.reverseRecOn with
  | nil => exact absurd h (List.not_mem_nil)
  | append_singleton calls call ih =>
    have hlater : item ∈ snippets t calls →
        ∃ c ∈ calls ++ [call], Snippet t c ∧ c.2 = item.2 := fun hitem ↦ by
      obtain ⟨c, hc, hrest⟩ := ih hitem
      exact ⟨c, List.mem_append_left _ hc, hrest⟩
    by_cases hcall : Snippet t call
    · rw [snippets_append t calls hcall] at h
      rcases mem_setItem h with rfl | h
      · exact ⟨call, by simp, hcall, rfl⟩
      · exact hlater h
    · rw [snippets_append_of_blank t calls hcall] at h
      exact hlater h

theorem length_search (query : String) (n : ℕ) :
    (searchIncidentMemory t true (memoryAfter t true calls) incidentId query n).length =
      min n (snippets t calls).length :=
  KnowledgeStore.length_search _ _ _ _ _

/-! ## Isolation -/

/-- With only snippets of the incident, the other calls do nothing. -/
theorem memoryAfter_filter
    (h : ∀ call ∈ calls, call.1 = incidentId ∨ ¬ Snippet t call) (enabled : Bool) :
    memoryAfter t enabled (calls.filter fun call ↦ call.1 = incidentId) =
      memoryAfter t enabled calls := by
  rw [memoryAfter, List.foldl_filter, memoryAfter]
  refine List.foldl_ext _ _ _ fun s call hcall ↦ ?_
  by_cases hown : call.1 = incidentId
  · rw [if_pos (decide_eq_true hown)]
  · have hblank : t.strip call.2 = "" := not_not.mp ((h call hcall).resolve_left hown)
    rw [if_neg (by simpa using hown), indexIncidentSnippet, if_pos (by simp [hblank])]

/-- A snippet of another incident is one that a search with room for all returns in addition. -/
theorem length_snippets_filter_lt {other : String × String} (hmem : other ∈ calls)
    (hother : other.1 ≠ incidentId) (hsnippet : Snippet t other) :
    (snippets t (calls.filter fun call ↦ call.1 = incidentId)).length <
      (snippets t calls).length := by
  have hnew : codePoints (memoryKey other.1) ∉
      keys (snippets t (calls.filter fun call ↦ call.1 = incidentId)) := by
    intro hkey
    obtain ⟨call, hcall, -, heq⟩ := (mem_keys_snippets t _).mp hkey
    have hid : other.1 = call.1 :=
      String.append_right_inj "wm:" |>.mp (codePoints_injective heq)
    exact hother (hid.trans (of_decide_eq_true (List.mem_filter.mp hcall).2))
  have hsub : codePoints (memoryKey other.1) ::
      keys (snippets t (calls.filter fun call ↦ call.1 = incidentId)) ⊆
        keys (snippets t calls) := by
    refine List.cons_subset.mpr
      ⟨(mem_keys_snippets t _).mpr ⟨other, hmem, hsnippet, rfl⟩, fun key hkey ↦ ?_⟩
    obtain ⟨call, hcall, hrest⟩ := (mem_keys_snippets t _).mp hkey
    exact (mem_keys_snippets t _).mpr ⟨call, (List.mem_filter.mp hcall).1, hrest⟩
  have hlength := (List.subperm_of_subset
    (List.nodup_cons.mpr ⟨hnew, nodup_keys_snippets t _⟩) hsub).length_le
  rw [List.length_cons, keys, List.length_map, keys, List.length_map] at hlength
  exact Nat.lt_of_succ_le hlength

/-- **The memory of an incident is isolated if and only if it is switched off or holds no snippet
of another incident.** -/
theorem isolated_iff (enabled : Bool) : Isolated t enabled calls incidentId ↔
    enabled = false ∨ ∀ call ∈ calls, call.1 = incidentId ∨ t.strip call.2 = "" := by
  constructor
  · intro h
    refine or_iff_not_imp_left.mpr fun henabled call hcall ↦ ?_
    have htrue : enabled = true := Bool.eq_true_of_not_eq_false henabled
    subst htrue
    by_contra hother
    obtain ⟨hid, hsnippet⟩ := not_or.mp hother
    have hlt := length_snippets_filter_lt t calls incidentId hcall hid hsnippet
    have heq := congrArg List.length (h.unchanged "" (snippets t calls).length)
    rw [length_search, length_search] at heq
    omega
  · rintro (rfl | h)
    · exact ⟨fun _ _ _ htext ↦ absurd htext List.not_mem_nil, fun _ _ ↦ rfl, fun _ _ _ ↦ rfl⟩
    · have hown : ∀ call ∈ calls, call.1 = incidentId ∨ ¬ Snippet t call := fun call hcall ↦
        (h call hcall).imp_right not_not.mpr
      have hmemory := memoryAfter_filter t calls incidentId hown enabled
      refine ⟨fun query limit text htext ↦ ?_, fun _ _ ↦ by rw [hmemory],
        fun _ _ _ ↦ by rw [hmemory]⟩
      cases enabled with
      | false => exact absurd htext List.not_mem_nil
      | true =>
        obtain ⟨key, hitem⟩ := KnowledgeStore.mem_of_mem_search htext
        obtain ⟨⟨id, text'⟩, hcall, hsnippet, rfl⟩ := exists_call_of_mem_snippets t calls hitem
        rcases hown _ hcall with rfl | hblank
        · exact hcall
        · exact absurd hsnippet hblank

/-- A search for one incident returns the snippet of another. -/
theorem finds_other_snippet :
    searchIncidentMemory Text.ascii true
        (memoryAfter Text.ascii true [("inc_b", "db password rotated")]) "inc_a" "cpu high" 5 =
      ["db password rotated"] ∧
    ¬ ∀ (calls : List (String × String)) (incidentId : String),
      Isolated Text.ascii true calls incidentId := by
  have hfound : searchIncidentMemory Text.ascii true
      (memoryAfter Text.ascii true [("inc_b", "db password rotated")]) "inc_a" "cpu high" 5 =
        ["db password rotated"] := by decide
  refine ⟨hfound, fun h ↦ ?_⟩
  have hown := (h [("inc_b", "db password rotated")] "inc_a").own "cpu high" 5
    "db password rotated" (by rw [hfound]; exact List.mem_singleton_self _)
  exact absurd hown (by decide)

end IncidentPlatform
