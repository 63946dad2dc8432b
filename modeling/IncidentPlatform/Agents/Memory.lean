import IncidentPlatform.Agents.Planner
import IncidentPlatform.Encoding.Dict
import Mathlib.Data.List.Dedup
import Mathlib.Data.List.Sort

/-!
# The working memory

`src/persistence/memory/working_memory.py`, the `InMemoryKnowledgeProvider` of
`src/persistence/memory/providers.py`, and the prompt of the planner, which shows what a search in
the memory finds. The copy of a snippet that goes to Redis is not modelled: nothing reads it.
-/

namespace IncidentPlatform

open Encoding

/-! ## `InMemoryKnowledgeProvider` -/

/-- `InMemoryKnowledgeProvider.store`: for every namespace, the texts under their keys. -/
abbrev KnowledgeStore := List (PyStr × List (PyStr × String))

namespace KnowledgeStore

/-- `self.store.get(namespace, {})`. -/
def values (s : KnowledgeStore) (ns : String) : List (PyStr × String) :=
  (lookup (codePoints ns) s).getD []

/-- `InMemoryKnowledgeProvider.index`. -/
def index (s : KnowledgeStore) (ns key text : String) : KnowledgeStore :=
  setItem (codePoints ns) (setItem (codePoints key) text (s.values ns)) s

/-- `xs[:limit]`. -/
def sliceTo (limit : ℤ) (xs : List String) : List String :=
  xs.take (if limit < 0 then (xs.length + limit).toNat else limit.toNat)

/-- `query_text in item[1].lower()`, the key of the sort. -/
def matchesQuery (t : Text) (query : String) (item : PyStr × String) : Bool :=
  isIn (t.lower query) (t.lower item.2)

/-- `InMemoryKnowledgeProvider.search`. The sort is stable, also with `reverse=True`: matching
texts come first, and otherwise the order is that of the dictionary. -/
def search (t : Text) (s : KnowledgeStore) (ns query : String) (limit : ℤ) : List String :=
  sliceTo limit (((s.values ns).insertionSort fun a b ↦
    matchesQuery t query b ≤ matchesQuery t query a).map Prod.snd)

theorem values_index (s : KnowledgeStore) (ns key text : String) :
    (s.index ns key text).values ns = setItem (codePoints key) text (s.values ns) := by
  rw [index, values, lookup_setItem]
  rfl

theorem mem_of_mem_search {t : Text} {s : KnowledgeStore} {ns query : String} {limit : ℤ}
    {text : String} (h : text ∈ s.search t ns query limit) : ∃ key, (key, text) ∈ s.values ns := by
  obtain ⟨item, hitem, rfl⟩ := List.mem_map.mp (List.mem_of_mem_take h)
  exact ⟨item.1, (List.mem_insertionSort _).mp hitem⟩

/-- A search ranks, it does not select: only the limit bounds what it returns. -/
theorem length_search (t : Text) (s : KnowledgeStore) (ns query : String) (n : ℕ) :
    (s.search t ns query n).length = min n (s.values ns).length := by
  rw [search, sliceTo, List.length_take, List.length_map, List.length_insertionSort,
    if_neg (by omega), Int.toNat_natCast]

end KnowledgeStore

/-! ## `working_memory` -/

/-- The key of an incident's snippet. -/
def memoryKey (incidentId : String) : String := "wm:" ++ incidentId

/-- `index_incident_snippet`, with `WORKING_MEMORY_ENABLED` as read when the module was loaded. -/
def indexIncidentSnippet (t : Text) (enabled : Bool) (s : KnowledgeStore)
    (incidentId text : String) : KnowledgeStore :=
  if !enabled || (t.strip text).isEmpty then s
  else s.index "incidents" (memoryKey incidentId) text

/-- `search_incident_memory`. -/
def searchIncidentMemory (t : Text) (enabled : Bool) (s : KnowledgeStore)
    (incidentId query : String) (limit : ℤ) : List String :=
  if !enabled then [] else s.search t "incidents" (incidentId ++ " " ++ query) limit

/-- The memory after calls of `index_incident_snippet`, from the first to the last. -/
def memoryAfter (t : Text) (enabled : Bool) (calls : List (String × String)) : KnowledgeStore :=
  calls.foldl (fun s call ↦ indexIncidentSnippet t enabled s call.1 call.2) []

/-! ## The prompt of the planner -/

/-- `str(allowed_names)`, a list of action names. -/
def namesRepr (names : List String) : String :=
  "[" ++ ", ".intercalate (names.map fun n ↦ "'" ++ n ++ "'") ++ "]"

/-- `RemediationPlannerAgent._format_user`. -/
def formatUser (t : Text) (enabled : Bool) (s : KnowledgeStore) (incident : IncidentRecord)
    (allowed : List ActionType) : String :=
  let allowedNames := (allowed.dedup.map ActionType.value).insertionSort (· ≤ ·)
  let mem := searchIncidentMemory t enabled s incident.incidentId incident.metadata.symptom 3
  "incident_id=" ++ incident.incidentId ++ "\n" ++
    "symptom=" ++ incident.metadata.symptom ++ "\n" ++
    "allowed_action_types=" ++ namesRepr allowedNames ++ "\n" ++
    "working_memory=\n" ++ "\n".intercalate mem ++ "\n"

end IncidentPlatform
