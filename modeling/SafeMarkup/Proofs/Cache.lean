import SafeMarkup.Policy.Cache
import SafeMarkup.Proofs.Dictionary
import SafeMarkup.Proofs.PolicyData

/-!
Contract: compiled policies that are kept, over any history of calls.

Owns: what one call answers and leaves behind, and what all calls of a history together do. Every
answer is that of compiling the policy of its call, an entry stays where it is as it is, and two
calls are given the same entry just if their policies are written alike.

Does not own: that no two policies share a digest, which is assumed of those of a history, and calls
that overlap.
-/

namespace SafeMarkup.PolicyCache

open Dictionary

/-- What a call answers: a compiled policy with its place, or why there is none. -/
abbrev Answer := Except PolicyError (Nat × Policy)

/-- The answers to calls one after another, and the cache behind them. -/
def serve : PolicyCache → List PolicySpec → List Answer × PolicyCache
  | cache, [] => ([], cache)
  | cache, policy :: calls =>
    let served := (cache.getOrCompile policy).value
    let others := serve served.2 calls
    (served.1 :: others.1, others.2)

/-- Policies whose digests tell them apart as far as their written forms do. -/
def DigestsApart (policies : List PolicySpec) : Prop :=
  ∀ first ∈ policies, ∀ second ∈ policies,
    Digest.sha256 first.toJson = Digest.sha256 second.toJson → first.toJson = second.toJson

variable {cache : PolicyCache} {policy : PolicySpec} {calls : List PolicySpec}

/-! ## Keys -/

/-- Policies of a history have a key in common only if they are written alike. -/
theorem key_inj (keyed : ∀ policy ∈ calls, policy.Keyed) (apart : DigestsApart calls)
    {first second : PolicySpec} (firstCalled : first ∈ calls) (secondCalled : second ∈ calls) :
    key first = key second ↔ first = second := by
  refine ⟨fun same => ?_, congrArg key⟩
  have sameText := apart first firstCalled second secondCalled same
  exact (PolicySpec.toJson_inj (keyed first firstCalled) (keyed second secondCalled)).mp sameText

/-! ## Places -/

theorem getElem?_place {name : Text} {entries : Dictionary Policy} {compiled : Policy}
    (found : get? name entries = some compiled) :
    entries[place name entries]? = some (name, compiled) := by
  induction entries with
  | nil => exact absurd found nofun
  | cons entry rest inductionHypothesis =>
      obtain ⟨other, kept⟩ := entry
      rw [get?] at found
      unfold place
      by_cases here : other = name
      · rw [if_pos here] at found
        simp [here, Option.some.inj found]
      · rw [if_neg here] at found
        simpa [place, here] using inductionHypothesis found

/-- Where keys do not repeat, an entry has one place. -/
theorem place_inj {entries : Dictionary Policy} (distinct : (keys entries).Nodup)
    {first second : Nat} {name other : Text} {compiled kept : Policy}
    (atFirst : entries[first]? = some (name, compiled))
    (atSecond : entries[second]? = some (other, kept)) : first = second ↔ name = other := by
  have firstKey : (keys entries)[first]? = some name := by simp [keys, atFirst]
  have secondKey : (keys entries)[second]? = some other := by simp [keys, atSecond]
  constructor
  · rintro rfl
    exact Option.some.inj (firstKey.symm.trans secondKey)
  · rintro rfl
    obtain ⟨bound, -⟩ := List.getElem?_eq_some_iff.mp firstKey
    exact (List.getElem?_inj bound distinct).mp (firstKey.trans secondKey.symm)

/-! ## One call -/

/-- A cache that holds compiled policies of a history, none of them twice. -/
structure Holds (calls : List PolicySpec) (cache : PolicyCache) : Prop where
  distinct : (keys cache.entries).Nodup
  compiled : ∀ entry ∈ cache.entries,
    ∃ policy ∈ calls, key policy = entry.1 ∧ policy.compile.value = .ok entry.2

/-- What an answer has to do with a policy and a cache: the policy was compiled and is kept at the
place that is told, or it cannot be compiled. -/
inductive Answers (cache : PolicyCache) (policy : PolicySpec) : Answer → Prop
  | kept {place : Nat} {compiled : Policy} (compiles : policy.compile.value = .ok compiled)
      (entry : cache.entries[place]? = some (key policy, compiled)) :
      Answers cache policy (.ok (place, compiled))
  | refused {error : PolicyError} (fails : policy.compile.value = .error error) :
      Answers cache policy (.error error)

/-- Entries that are added do not move the others. -/
theorem Answers.later {later : PolicyCache} {answer : Answer}
    (answers : Answers cache policy answer) (grown : cache.entries <+: later.entries) :
    Answers later policy answer := by
  cases answers with
  | kept compiles entry =>
      obtain ⟨added, whole⟩ := grown
      have bound := (List.getElem?_eq_some_iff.mp entry).1
      exact .kept compiles (by rw [← whole, List.getElem?_append_left bound, entry])
  | refused fails => exact .refused fails

theorem Answers.map_eq {answer : Answer} (answers : Answers cache policy answer) :
    policy.compile.value = answer.map Prod.snd := by
  cases answers with
  | kept compiles entry => exact compiles
  | refused fails => exact fails

/-- A policy that does not compile leaves the cache as it was, whatever that holds. -/
theorem getOrCompile_of_error {error : PolicyError} (fails : policy.compile.value = .error error) :
    (cache.getOrCompile policy).value.2 = cache := by
  simp only [getOrCompile]
  split
  · rfl
  · simp [fails]

/-- A call answers with the compiled policy of its own, and keeps it. -/
theorem getOrCompile_answers (keyed : ∀ policy ∈ calls, policy.Keyed) (apart : DigestsApart calls)
    (called : policy ∈ calls) (holds : Holds calls cache) :
    Answers (cache.getOrCompile policy).value.2 policy (cache.getOrCompile policy).value.1 ∧
      cache.entries <+: (cache.getOrCompile policy).value.2.entries ∧
      Holds calls (cache.getOrCompile policy).value.2 := by
  cases known : get? (key policy) cache.entries with
  | some compiled =>
      obtain ⟨other, otherCalled, sameKey, compiles⟩ :=
        holds.compiled _ (mem_of_get?_eq_some known)
      obtain rfl : other = policy := (key_inj keyed apart otherCalled called).mp sameKey
      have served : (cache.getOrCompile other).value =
          (.ok (place (key other) cache.entries, compiled), cache) := by
        simp [getOrCompile, known]
      rw [served]
      exact ⟨.kept compiles (getElem?_place known), List.prefix_rfl, holds⟩
  | none =>
      cases compiles : policy.compile.value with
      | error error =>
          have served : (cache.getOrCompile policy).value = (.error error, cache) := by
            simp [getOrCompile, known, compiles]
          rw [served]
          exact ⟨.refused compiles, List.prefix_rfl, holds⟩
      | ok compiled =>
          have fresh : key policy ∉ keys cache.entries := get?_eq_none_iff.mp known
          have served : (cache.getOrCompile policy).value =
              (.ok (cache.entries.length, compiled),
                ⟨cache.entries ++ [(key policy, compiled)]⟩) := by
            simp [getOrCompile, known, compiles, insert_of_fresh fresh]
          rw [served]
          refine ⟨.kept compiles List.getElem?_concat_length, List.prefix_append _ _, ?_, ?_⟩
          · have distinct : (key policy :: keys cache.entries).Nodup :=
              List.nodup_cons.mpr ⟨fresh, holds.distinct⟩
            simpa [keys] using List.nodup_append_comm.mp distinct
          · intro entry member
            rcases List.mem_append.mp member with before | added
            · exact holds.compiled entry before
            · obtain rfl := List.mem_singleton.mp added
              exact ⟨policy, called, rfl, compiles⟩

/-! ## Histories -/

theorem holds_empty (calls : List PolicySpec) : Holds calls empty := ⟨List.nodup_nil, nofun⟩

/-- Calls are answered one by one, also by what the cache holds at their end. -/
theorem serve_answers {history : List PolicySpec} (keyed : ∀ policy ∈ history, policy.Keyed)
    (apart : DigestsApart history) (within : calls ⊆ history) (holds : Holds history cache) :
    List.Forall₂ (Answers (cache.serve calls).2) calls (cache.serve calls).1 ∧
      cache.entries <+: (cache.serve calls).2.entries ∧ Holds history (cache.serve calls).2 := by
  induction calls generalizing cache with
  | nil => exact ⟨.nil, List.prefix_rfl, holds⟩
  | cons policy calls inductionHypothesis =>
      obtain ⟨called, others⟩ := List.cons_subset.mp within
      obtain ⟨answers, grown, stillHolds⟩ := getOrCompile_answers keyed apart called holds
      obtain ⟨later, grownLater, holdsLater⟩ := inductionHypothesis others stillHolds
      exact ⟨.cons (answers.later grownLater) later, grown.trans grownLater, holdsLater⟩

/-- Over every history of calls from an empty cache: the answers are those of compiling each policy
afresh; what was given out stays where it was told to be; calls are told the same place just if
their policies are written alike; and a call that fails, in whatever cache, changes nothing. -/
theorem serve_coherent (calls : List PolicySpec) (keyed : ∀ policy ∈ calls, policy.Keyed)
    (apart : DigestsApart calls) :
    ((empty.serve calls).1.map fun answer => answer.map Prod.snd) =
        (calls.map fun policy => policy.compile.value) ∧
      (∀ (index place : Nat) (compiled : Policy),
        (empty.serve calls).1[index]? = some (.ok (place, compiled)) →
        ((empty.serve calls).2.entries[place]?).map Prod.snd = some compiled) ∧
      (∀ (index other place otherPlace : Nat) (compiled otherCompiled : Policy),
        (empty.serve calls).1[index]? = some (.ok (place, compiled)) →
        (empty.serve calls).1[other]? = some (.ok (otherPlace, otherCompiled)) →
        (place = otherPlace ↔ calls[index]? = calls[other]?)) ∧
      ∀ (cache : PolicyCache) (policy : PolicySpec) (error : PolicyError),
        policy.compile.value = .error error → (getOrCompile cache policy).value.2 = cache := by
  obtain ⟨answers, -, holds⟩ :=
    serve_answers keyed apart (List.Subset.refl calls) (holds_empty calls)
  have keptAt {index place : Nat} {compiled : Policy}
      (given : (empty.serve calls).1[index]? = some (.ok (place, compiled))) :
      ∃ policy, calls[index]? = some policy ∧
        (empty.serve calls).2.entries[place]? = some (key policy, compiled) := by
    obtain ⟨sameLength, pairs⟩ := List.forall₂_iff_get.mp answers
    obtain ⟨bound, here⟩ := List.getElem?_eq_some_iff.mp given
    have called : index < calls.length := by omega
    have answered := pairs index called bound
    rw [List.get_eq_getElem, List.get_eq_getElem, here] at answered
    cases answered with
    | kept compiles entry => exact ⟨calls[index], List.getElem?_eq_getElem called, entry⟩
  refine ⟨?_, ?_, ?_, fun cache policy error => getOrCompile_of_error⟩
  · have same : List.Forall₂ Eq (calls.map fun policy => policy.compile.value)
        ((empty.serve calls).1.map fun answer => answer.map Prod.snd) :=
      List.forall₂_map_left_iff.mpr (List.forall₂_map_right_iff.mpr
        (answers.imp fun _ _ => Answers.map_eq))
    exact (List.forall₂_eq_eq_eq ▸ same).symm
  · intro index place compiled given
    obtain ⟨policy, -, entry⟩ := keptAt given
    rw [entry]
    rfl
  · intro index other place otherPlace compiled otherCompiled given otherGiven
    obtain ⟨policy, called, entry⟩ := keptAt given
    obtain ⟨otherPolicy, otherCalled, otherEntry⟩ := keptAt otherGiven
    rw [place_inj holds.distinct entry otherEntry, called, otherCalled, Option.some_inj]
    exact key_inj keyed apart (List.mem_of_getElem? called) (List.mem_of_getElem? otherCalled)

/-- A policy of some elements without attributes. -/
def bare (names : List Text) : PolicySpec :=
  { PolicySpec.empty with elements := names.map fun name => (name, []) }

theorem keyed_bare {names : List Text} (distinct : names.Nodup) : (bare names).Keyed := by
  have elements : (keys (bare names).elements).Nodup := by
    simpa [bare, keys, Function.comp_def] using distinct
  refine ⟨List.nodup_nil, List.nodup_nil, List.nodup_nil, List.forall_mem_nil _, List.nodup_nil,
    List.forall_mem_nil _, elements, ?_⟩
  intro entry member
  obtain ⟨name, -, rfl⟩ := List.mem_map.mp member
  exact List.forall_mem_nil _

/-- A policy that fails, one that is asked for twice, and the same elements in the other order. -/
def reordered : List PolicySpec := [bare [], bare ["p", "b"], bare ["b", "p"], bare ["p", "b"]]

theorem serve_coherent_reordered :
    (∀ policy ∈ reordered, policy.Keyed) ∧ DigestsApart reordered ∧
      ∃ first second third : Nat × Policy,
        (empty.serve reordered).1[1]? = some (.ok first) ∧
        (empty.serve reordered).1[2]? = some (.ok second) ∧
        (empty.serve reordered).1[3]? = some (.ok third) ∧
        first.1 ≠ second.1 ∧ first.1 = third.1 := by
  have keyed : ∀ policy ∈ reordered, policy.Keyed := by
    intro policy member
    simp only [reordered, List.mem_cons, List.not_mem_nil, or_false] at member
    rcases member with rfl | rfl | rfl | rfl <;> exact keyed_bare (by decide)
  have distinct : ([bare [], bare ["p", "b"], bare ["b", "p"]].map key).Nodup := by decide +kernel
  have apart : DigestsApart reordered := by
    have listed : reordered ⊆ [bare [], bare ["p", "b"], bare ["b", "p"]] := by simp [reordered]
    intro first firstCalled second secondCalled same
    exact congrArg _
      (List.inj_on_of_nodup_map distinct (listed firstCalled) (listed secondCalled) same)
  obtain ⟨afresh, -, same, -⟩ := serve_coherent reordered keyed apart
  have given (index : Nat)
      (compiles : (((reordered.map fun policy => policy.compile.value)[index]?).bind
        Except.toOption).isSome) :
      ∃ first, (empty.serve reordered).1[index]? = some (.ok first) := by
    rw [← afresh, List.getElem?_map] at compiles
    cases answered : (empty.serve reordered).1[index]? with
    | none => simp [answered] at compiles
    | some answer =>
        cases answer with
        | error error => simp [answered, Except.map, Except.toOption] at compiles
        | ok first => exact ⟨first, rfl⟩
  obtain ⟨⟨place, compiled⟩, first⟩ := given 1 (by decide +kernel)
  obtain ⟨⟨otherPlace, otherCompiled⟩, second⟩ := given 2 (by decide +kernel)
  obtain ⟨⟨lastPlace, lastCompiled⟩, third⟩ := given 3 (by decide +kernel)
  refine ⟨keyed, apart, _, _, _, first, second, third, ?_, ?_⟩
  · intro samePlace
    have sameCalls := (same 1 2 place otherPlace compiled otherCompiled first second).mp samePlace
    have sameNames := congrArg (Option.map fun policy => keys policy.elements) sameCalls
    exact absurd sameNames (by decide)
  · exact (same 1 3 place lastPlace compiled lastCompiled first third).mpr rfl

end SafeMarkup.PolicyCache
