import TowerGuard.Properties.StatusPayload
import TowerGuard.StatusService

/-!
# The status route under refreshes

The rows of a status document are read one after the other, and the table may be refreshed in
between. Whatever falls in between, the document is that of one snapshot: each row is one the table
had at its own moment of the call, and what was written reads back.
-/

namespace TowerGuard

open Json Text Traced

/-! ### One snapshot -/

/-- What stands next to a distinct name is found by it. -/
theorem lookup_zip {ι σ : Type} [DecidableEq ι] {i : ι} {s : σ} {k : Nat} :
    ∀ {is : List ι} {states : List σ}, is.Nodup → is[k]? = some i → states[k]? = some s →
      (is.zip states).lookup i = some s := by
  intro is
  induction is generalizing k with
  | nil =>
    intro states _ named
    cases named
  | cons j is ih =>
    intro states distinct named reached
    obtain ⟨fresh, distinct⟩ := List.nodup_cons.mp distinct
    cases states with
    | nil => cases reached
    | cons s' states =>
      cases k with
      | zero =>
        cases named
        cases reached
        exact List.lookup_cons_self
      | succ k =>
        have member : i ∈ is := List.mem_of_getElem? named
        have other : (i == j) = false := by
          rw [beq_eq_false_iff_ne]
          rintro rfl
          exact fresh member
        rw [List.zip_cons_cons, List.lookup_cons, other]
        exact ih distinct named reached

namespace LiveStatus

variable {σ : Type} (status : LiveStatus σ)

/-- The snapshot of rows found in states of their own, with the geo-ip component of the last. -/
def composed (found : List (String × σ)) (last : σ) : GuardStatus where
  cloud := status.cloud.map fun table => ⟨fun provider =>
    (found.lookup provider).elim ⟨false, none, 0⟩ fun s => (table s).providerStatus provider⟩
  geoConfigured := status.geoConfigured
  geoManager := status.geoManager.map fun manager => manager last

theorem composed_row (found : List (String × σ)) (last : σ) (provider : String) :
    (status.composed found last).providerRow provider =
      (found.lookup provider).elim ⟨false, none, 0⟩ fun s =>
        (status.read s).providerRow provider := by
  unfold composed read GuardStatus.providerRow
  cases status.cloud with
  | none => cases found.lookup provider <;> rfl
  | some table => rfl

end LiveStatus

variable {σ τ ρ : Type} {providers : List String}
  {objectToString : List (String × Value) → String} {service : GuardStatusService σ}

/-- A call answers with the snapshot of the rows it has found. -/
theorem status_walks {acts : List (Act σ)} {trace : List τ} {flow : Flow Empty Generated}
    (distinct : providers.Nodup)
    (walks : (service.call providers objectToString : Thread σ τ ρ _ _).Walks acts trace flow) :
    ∃ found last, found.length = providers.length ∧ acts.map Act.found = found ++ [last] ∧
      flow = .pass ((service.status.composed (providers.zip found) last).response providers
        objectToString) := by
  obtain ⟨ended, read, later, t₁, t₂, begins, onward, rfl, rfl⟩ :=
    Thread.walks_bind_iff.mp walks
  obtain ⟨count, -, rfl, rfl⟩ := Thread.walks_readings_iff.mp begins
  obtain ⟨last, none, t₃, rfl, rfl, rest⟩ := Thread.walks_atomically_bind_iff.mp onward
  obtain ⟨rfl, rfl, rfl⟩ := Thread.walks_pass_iff.mp rest
  rw [← List.length_map Act.found] at count
  refine ⟨read.map Act.found, last, count, List.map_append, ?_⟩
  generalize read.map Act.found = found at count ⊢
  -- The rows are those of the one snapshot.
  have rows : List.zipWith (fun provider s => (provider, (service.status.read s).providerRow
      provider)) providers found =
        (service.status.composed (providers.zip found) last).cloudProviderStatus providers := by
    refine List.ext_getElem? fun k => ?_
    rw [GuardStatus.cloudProviderStatus, List.getElem?_zipWith, List.getElem?_map]
    cases named : providers[k]? with
    | none => rfl
    | some provider =>
      have inside : k < found.length := count ▸ (List.getElem?_eq_some_iff.mp named).1
      have reached : found[k]? = some found[k] := List.getElem?_eq_getElem inside
      rw [reached, Option.map_some, LiveStatus.composed_row, lookup_zip distinct named reached]
      rfl
  rw [rows]
  rfl

/-! ### Any interleaving -/

variable (providers objectToString) in
/-- Status calls among changes of the store. A call shows nothing and waits for nothing. -/
abbrev statusCall (service : GuardStatusService σ) : Thread σ Empty Empty Empty Generated :=
  service.call providers objectToString

/-- However the store changes while a document is written, what is answered is the JSON of one
snapshot. Each of its rows is the one the table had at a moment of the call, in the order of the
providers, and its geo-ip component is that of a moment behind these. -/
theorem interleaved_status_reads_back {s : σ} {moves : List (Move (GuardStatusService σ) σ)}
    {pool shown} (ran : Machine.run (Pool.move (statusCall providers objectToString)) (.empty s)
      moves = some (pool, shown)) {i : Nat} {task} (found : pool.tasks[i]? = some task) {flow}
    (finished : Pool.outcome task = some flow) (distinct : providers.Nodup)
    (renders : ∀ s, (task.job.status.read s).ManagerRenders objectToString) :
    ∃ (heres : List (Pool.Stepped (GuardStatusService σ) σ Empty Empty Empty Generated))
      (last : Pool.Stepped (GuardStatusService σ) σ Empty Empty Empty Generated)
      (snapshot : GuardStatus),
      Pool.Moments (statusCall providers objectToString) s i moves (heres ++ [last]) ∧
      heres.length = providers.length ∧
      flow = .pass (snapshot.response providers objectToString) ∧
      (fromUtf8 (snapshot.response providers objectToString).body).bind parse =
        some (snapshot.toJson providers) ∧
      (∀ (k : Nat) provider here, providers[k]? = some provider → heres[k]? = some here →
        snapshot.providerRow provider =
          (task.job.status.read here.1.state).providerRow provider) ∧
      snapshot.geoIpJson = (task.job.status.read last.1.state).geoIpJson := by
  obtain ⟨moments, inOrder, walks⟩ := Pool.run_walks ran found finished
  obtain ⟨states, state, count, split, answered⟩ := status_walks distinct walks
  rw [List.map_map] at split
  obtain ⟨heres, behind, rfl, rfl, single⟩ := List.map_eq_append_iff.mp split
  obtain ⟨last, rfl, rfl⟩ := List.map_eq_singleton_iff.mp single
  rw [List.length_map] at count
  refine ⟨heres, last, _, inOrder, count, answered, ?_, ?_, ?_⟩
  · -- The manager is the one of the last state, which renders.
    have written := (task.job.status.composed (providers.zip (heres.map (Act.found ∘ Pool.act)))
      last.1.state).isText_payload providers (renders last.1.state)
    exact (congrArg (Option.bind · parse) (fromUtf8_bytesOf _)).trans (parse_eq written)
  · intro k provider here named reached
    have state : (heres.map (Act.found ∘ Pool.act))[k]? = some here.1.state := by
      rw [List.getElem?_map, reached]
      rfl
    rw [LiveStatus.composed_row, lookup_zip distinct named state]
    rfl
  · unfold LiveStatus.composed LiveStatus.read GuardStatus.geoIpJson
    cases task.job.status.geoManager <;> rfl

/-- A table that a refresher loads, and no lifecycle manager. -/
def refreshedStatus : GuardStatusService Bool where
  status :=
    { cloud := some fun loaded => ⟨fun _ =>
        if loaded then ⟨true, some 1760000000, 2⟩ else ⟨false, none, 0⟩⟩
      geoConfigured := true
      geoManager := none }

/-- The refresh comes in behind the first row. -/
def refreshedBetween : List (Move (GuardStatusService Bool) Bool) :=
  [.start refreshedStatus, .step 0, .elsewhere true, .step 0, .step 0]

/-- What is served then: a row from before the refresh and one from behind it. -/
def refreshedDocument : String :=
  "\x7b\"cloud_providers\":\x7b" ++
    "\"AWS\":\x7b\"ready\":false,\"last_refreshed\":null,\"entries\":0\x7d," ++
    "\"GCP\":\x7b\"ready\":true,\"last_refreshed\":1760000000,\"entries\":2\x7d\x7d," ++
    "\"geo_ip\":\x7b\"configured\":true\x7d\x7d"

theorem refreshed_status_reads_back : ∃ pool shown response snapshot,
    Machine.run (Pool.move (statusCall ["AWS", "GCP"] unreadyManager)) (.empty false)
        refreshedBetween = some (pool, shown) ∧
      pool.tasks.map Pool.outcome = [some (.pass response)] ∧
      response.body = bytesOf refreshedDocument ∧
      (fromUtf8 response.body).bind parse = some (GuardStatus.toJson snapshot ["AWS", "GCP"]) ∧
      snapshot.geoIpJson = .obj [("configured", .bool true)] := by
  have served : (Machine.run (Pool.move (statusCall ["AWS", "GCP"] unreadyManager)) (.empty false)
      refreshedBetween).map (fun run => run.1.tasks.map fun task => (Pool.outcome task).map
        fun flow => match flow with
          | .pass response => response.body
          | .exit _ | .unwound => []) = some [some (bytesOf refreshedDocument)] := by
    decide +kernel
  obtain ⟨⟨pool, shown⟩, ran, bodies⟩ := Option.map_eq_some_iff.mp served
  obtain ⟨task, single, ended⟩ := List.map_eq_singleton_iff.mp bodies
  obtain ⟨flow, finished, body⟩ := Option.map_eq_some_iff.mp ended
  have found : pool.tasks[0]? = some task := by rw [single]; rfl
  obtain ⟨_, _, _, ⟨⟩, rest, -⟩ := Machine.run_cons_iff.mp ran
  have placed := Pool.run_job (j := 0) rest rfl
  rw [found] at placed
  have job : task.job = refreshedStatus := Option.some.inj placed
  -- There is no manager, so that nothing has to be rendered.
  have renders : ∀ s, (task.job.status.read s).ManagerRenders unreadyManager := by
    rw [job]
    rintro s manager ⟨⟩
  obtain ⟨heres, last, snapshot, -, -, rfl, reads, -, geo⟩ :=
    interleaved_status_reads_back ran found finished (by decide) renders
  rw [job] at geo
  exact ⟨pool, shown, _, snapshot, ran, by rw [single, List.map_singleton, finished], body, reads,
    geo⟩

end TowerGuard
