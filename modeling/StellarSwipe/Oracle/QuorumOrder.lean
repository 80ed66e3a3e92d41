import StellarSwipe.Oracle.Quorum

/-!
# What a quorum price depends on

Each authorized provider's latest observation is its vote, in whatever order they are listed.
-/

namespace StellarSwipe.Oracle

/-- Either the provider has no vote, or its vote is older than the observation, or it is not. -/
theorem admitFrom_cases (source : Address) (sequence index : Nat) (votes : List Vote) :
    ((∀ vote ∈ votes, vote.provider ≠ source) ∧
      admitFrom source sequence index (votes.map fun vote => (vote.provider, vote.sequence)) =
        .ok .append) ∨ (∃ pre vote after, votes = pre ++ vote :: after ∧ vote.provider = source ∧
      vote.sequence < sequence ∧
      admitFrom source sequence index (votes.map fun vote => (vote.provider, vote.sequence)) =
        .ok (.replace (index + pre.length))) ∨
    (∃ vote ∈ votes, vote.provider = source ∧ sequence ≤ vote.sequence ∧
      admitFrom source sequence index (votes.map fun vote => (vote.provider, vote.sequence)) =
        .error .duplicateObservation) := by
  induction votes generalizing index with
  | nil => exact .inl ⟨by simp, rfl⟩
  | cons vote rest ih =>
    simp only [List.map_cons, admitFrom]
    by_cases own : vote.provider = source
    · rw [if_pos own]
      by_cases older : sequence ≤ vote.sequence
      · rw [if_pos older]
        exact .inr (.inr ⟨vote, List.mem_cons_self, own, older, rfl⟩)
      · rw [if_neg older]
        exact .inr (.inl ⟨[], vote, rest, rfl, own, not_le.mp older, rfl⟩)
    · rw [if_neg own]
      rcases ih (index + 1) with ⟨absent, admitted⟩ |
        ⟨pre, hit, after, rfl, held, older, admitted⟩ | ⟨hit, inside, held, newer, admitted⟩
      · refine .inl ⟨fun other inside => ?_, admitted⟩
        rcases List.mem_cons.mp inside with rfl | later
        · exact own
        · exact absent other later
      · refine .inr (.inl ⟨vote :: pre, hit, after, rfl, held, older, ?_⟩)
        rw [admitted, List.length_cons, Nat.add_assoc, Nat.add_comm 1]
      · exact .inr (.inr ⟨hit, List.mem_cons_of_mem _ inside, held, newer, admitted⟩)

theorem receive_cases (votes : List Vote) (observation : Observation) :
    ((∀ vote ∈ votes, vote.provider ≠ observation.provider) ∧
      receive votes observation = votes ++ [observation.vote]) ∨
    (∃ pre vote after, votes = pre ++ vote :: after ∧
      vote.provider = observation.provider ∧ vote.sequence < observation.sequence ∧
      receive votes observation = pre ++ observation.vote :: after) ∨
    (∃ vote ∈ votes, vote.provider = observation.provider ∧
      observation.sequence ≤ vote.sequence ∧ receive votes observation = votes) := by
  rcases admitFrom_cases observation.provider observation.sequence 0 votes with
    ⟨absent, admitted⟩ | ⟨pre, vote, after, rfl, own, older, admitted⟩ |
    ⟨vote, inside, own, newer, admitted⟩
  · exact .inl ⟨absent, by rw [receive, admitObservation, admitted]⟩
  · refine .inr (.inl ⟨pre, vote, after, rfl, own, older, ?_⟩)
    rw [receive, admitObservation, admitted]
    simp
  · exact .inr (.inr ⟨vote, inside, own, newer, by rw [receive, admitObservation, admitted]⟩)

/-- The votes are those of the authorized providers, for the latest of the observations. -/
structure Tallied (authorized : List Address) (past : List Observation) (votes : List Vote) :
    Prop where
  single : (votes.map Vote.provider).Nodup
  voted : ∀ vote ∈ votes, vote.provider ∈ authorized ∧ ∃ seen ∈ past, seen.vote = vote
  latest : ∀ seen ∈ past, seen.provider ∈ authorized →
    ∃ vote ∈ votes, vote.provider = seen.provider ∧ seen.sequence ≤ vote.sequence

section Votes

variable {authorized : List Address} {past : List Observation} {votes : List Vote}
  {observation : Observation}

theorem Tallied.skip (kept : Tallied authorized past votes)
    (outsider : observation.provider ∉ authorized) :
    Tallied authorized (past ++ [observation]) votes := by
  refine ⟨kept.single, fun vote inside => ?_, fun seen listed mem => ?_⟩
  · obtain ⟨mem, seen, listed, about⟩ := kept.voted vote inside
    exact ⟨mem, seen, List.mem_append_left _ listed, about⟩
  · rcases List.mem_append.mp listed with inside | last
    · exact kept.latest seen inside mem
    · cases List.mem_singleton.mp last
      exact absurd mem outsider

/-- A vote that replaces another of the same provider, or is the first of its provider. -/
theorem Tallied.receive (kept : Tallied authorized past votes)
    (mem : observation.provider ∈ authorized) :
    Tallied authorized (past ++ [observation]) (receive votes observation) := by
  have seenBefore {vote : Vote} (inside : vote ∈ votes) :
      vote.provider ∈ authorized ∧ ∃ seen ∈ past ++ [observation], seen.vote = vote := by
    obtain ⟨mem, seen, listed, about⟩ := kept.voted vote inside
    exact ⟨mem, seen, List.mem_append_left _ listed, about⟩
  have own : observation.vote.provider ∈ authorized ∧
      ∃ seen ∈ past ++ [observation], seen.vote = observation.vote :=
    ⟨mem, observation, List.mem_append_right _ List.mem_cons_self, rfl⟩
  rcases receive_cases votes observation with ⟨absent, received⟩ |
    ⟨pre, old, after, rfl, same, older, received⟩ | ⟨vote, inside, same, newer, received⟩
  · rw [received]
    refine ⟨?_, fun vote listed => ?_, fun seen listed permitted => ?_⟩
    · rw [List.map_append, List.map_singleton]
      refine List.nodup_append.mpr ⟨kept.single, List.nodup_singleton _, ?_⟩
      rintro provider held other last rfl
      obtain ⟨vote, inside, rfl⟩ := List.mem_map.mp held
      exact absent vote inside (List.mem_singleton.mp last)
    · rcases List.mem_append.mp listed with inside | last
      · exact seenBefore inside
      · cases List.mem_singleton.mp last
        exact own
    · rcases List.mem_append.mp listed with inside | last
      · obtain ⟨vote, voted, about, latest⟩ := kept.latest seen inside permitted
        exact ⟨vote, List.mem_append_left _ voted, about, latest⟩
      · cases List.mem_singleton.mp last
        exact ⟨_, List.mem_append_right _ List.mem_cons_self, rfl, le_rfl⟩
  · rw [received]
    refine ⟨?_, fun vote listed => ?_, fun seen listed permitted => ?_⟩
    · have single := kept.single
      rw [List.map_append, List.map_cons] at single ⊢
      rwa [show observation.vote.provider = old.provider from same.symm]
    · rcases List.mem_append.mp listed with inside | rest
      · exact seenBefore (List.mem_append_left _ inside)
      · rcases List.mem_cons.mp rest with rfl | inside
        · exact own
        · exact seenBefore (List.mem_append_right _ (List.mem_cons_of_mem _ inside))
    · have replaced : ∃ vote ∈ pre ++ observation.vote :: after,
          vote.provider = observation.provider ∧ observation.sequence ≤ vote.sequence :=
        ⟨observation.vote, List.mem_append_right _ List.mem_cons_self, rfl, le_rfl⟩
      rcases List.mem_append.mp listed with inside | last
      · obtain ⟨vote, voted, about, latest⟩ := kept.latest seen inside permitted
        rcases List.mem_append.mp voted with front | rest
        · exact ⟨vote, List.mem_append_left _ front, about, latest⟩
        · rcases List.mem_cons.mp rest with rfl | back
          · exact ⟨observation.vote, List.mem_append_right _ List.mem_cons_self,
              same.symm.trans about, latest.trans older.le⟩
          · exact ⟨vote, List.mem_append_right _ (List.mem_cons_of_mem _ back), about, latest⟩
      · cases List.mem_singleton.mp last
        exact replaced
  · rw [received]
    refine ⟨kept.single, fun vote listed => seenBefore listed, fun seen listed permitted => ?_⟩
    rcases List.mem_append.mp listed with inside | last
    · exact kept.latest seen inside permitted
    · cases List.mem_singleton.mp last
      exact ⟨vote, inside, same, newer⟩

/-- Positive prices are all collected. The induction is on the observations still to go. -/
theorem collectVotes_tallied (rest : List Observation)
    (pos : ∀ observation ∈ rest, 0 < (observation.price : Int))
    (kept : Tallied authorized past votes) :
    ∃ collected, collectVotes authorized rest votes = .ok collected ∧
      Tallied authorized (past ++ rest) collected := by
  induction rest generalizing past votes with
  | nil => exact ⟨votes, rfl, by rwa [List.append_nil]⟩
  | cons observation rest ih =>
    obtain ⟨first, others⟩ := List.forall_mem_cons.mp pos
    rw [collectVotes, if_neg (not_le.mpr first), List.append_cons]
    split
    next mem => exact ih others (kept.receive mem)
    next outsider => exact ih others (kept.skip outsider)

theorem collectVotes_stops (rest : List Observation) (votes : List Vote)
    (bad : ∃ observation ∈ rest, (observation.price : Int) ≤ 0) :
    collectVotes authorized rest votes = .error (.error .invalidPrice) := by
  induction rest generalizing votes with
  | nil => simp at bad
  | cons observation rest ih =>
    rw [collectVotes]
    split
    next => rfl
    next pos =>
      have later : ∃ observation ∈ rest, (observation.price : Int) ≤ 0 := by
        obtain ⟨hit, inside, low⟩ := bad
        rcases List.mem_cons.mp inside with rfl | behind
        · exact absurd low pos
        · exact ⟨hit, behind, low⟩
      split
      next => exact ih _ later
      next => exact ih _ later

theorem Tallied.subset {other : List Observation} {others : List Vote}
    (first : Tallied authorized past votes) (second : Tallied authorized other others)
    (covered : ∀ seen ∈ past, seen.provider ∈ authorized →
      ∃ later ∈ other, later.provider = seen.provider ∧ seen.sequence ≤ later.sequence)
    (covers : ∀ seen ∈ other, seen.provider ∈ authorized →
      ∃ later ∈ past, later.provider = seen.provider ∧ seen.sequence ≤ later.sequence)
    (agree : ∀ seen ∈ past, ∀ hit ∈ other, seen.provider ∈ authorized →
      hit.provider = seen.provider → hit.sequence = seen.sequence →
      (∀ any ∈ other, any.provider = seen.provider → any.sequence ≤ seen.sequence) →
      seen.vote = hit.vote) : votes ⊆ others := by
  intro vote inside
  obtain ⟨mem, seen, listed, rfl⟩ := first.voted vote inside
  obtain ⟨later, there, same, above⟩ := covered seen listed mem
  obtain ⟨held, voted, about, latest⟩ := second.latest later there (same ▸ mem)
  obtain ⟨_, hit, foundIn, rfl⟩ := second.voted held voted
  -- Nothing in the other list is later, because this list covers it and has one vote only.
  have top : ∀ any ∈ other, any.provider = seen.provider → any.sequence ≤ seen.sequence := by
    intro any anyIn anySame
    obtain ⟨beyond, overIn, overSame, overAbove⟩ := covers any anyIn (anySame ▸ mem)
    obtain ⟨mine, mineIn, mineSame, mineAbove⟩ :=
      first.latest beyond overIn (by rw [overSame, anySame]; exact mem)
    have : mine = seen.vote := List.inj_on_of_nodup_map first.single mineIn inside
      (mineSame.trans (overSame.trans anySame))
    subst this
    exact overAbove.trans mineAbove
  have equal : hit.vote.provider = seen.provider := about.trans same
  rw [agree seen listed hit foundIn mem equal
    (le_antisymm (top hit foundIn equal) (above.trans latest)) top]
  exact voted

end Votes

def Observation.Harmless (authorized : List Address) (observations : List Observation)
    (extra : Observation) : Prop :=
  extra.provider ∉ authorized ∨ ∃ later ∈ observations,
    later.provider = extra.provider ∧ extra.sequence < later.sequence
deriving Decidable

/-- An observation that is validated without an error of its own. -/
def Observation.Valid (env : Env) (observation : Observation) : Prop :=
  0 < (observation.price : Int) ∧ observation.timestamp ≤ env.timestamp
deriving Decidable

section Extras

variable {authorized : List Address} {observations extras listed : List Observation}

theorem Tallied.perm {votes others : List Vote} (first : Tallied authorized listed votes)
    (second : Tallied authorized observations others)
    (distinct : (observations.map fun seen => (seen.provider, seen.sequence)).Nodup)
    (harmless : ∀ extra ∈ extras, extra.Harmless authorized observations)
    (same : listed.Perm (extras ++ observations)) : votes.Perm others := by
  have split (seen : Observation) : seen ∈ listed ↔ seen ∈ extras ∨ seen ∈ observations :=
    same.mem_iff.trans List.mem_append
  have overtaken (extra : Observation) (inside : extra ∈ extras)
      (mem : extra.provider ∈ authorized) : ∃ later ∈ observations,
        later.provider = extra.provider ∧ extra.sequence < later.sequence :=
    (harmless extra inside).resolve_left (not_not_intro mem)
  have equal (seen : Observation) (inside : seen ∈ observations) (hit : Observation)
      (there : hit ∈ observations) (provider : hit.provider = seen.provider)
      (sequence : hit.sequence = seen.sequence) : seen = hit :=
    List.inj_on_of_nodup_map distinct inside there (Prod.ext provider.symm sequence.symm)
  have covered : ∀ seen ∈ listed, seen.provider ∈ authorized → ∃ later ∈ observations,
      later.provider = seen.provider ∧ seen.sequence ≤ later.sequence := by
    intro seen inside mem
    rcases (split seen).mp inside with extra | own
    · obtain ⟨later, there, provider, above⟩ := overtaken seen extra mem
      exact ⟨later, there, provider, above.le⟩
    · exact ⟨seen, own, rfl, le_rfl⟩
  have covers : ∀ seen ∈ observations, seen.provider ∈ authorized → ∃ later ∈ listed,
      later.provider = seen.provider ∧ seen.sequence ≤ later.sequence :=
    fun seen inside _ => ⟨seen, (split seen).mpr (.inr inside), rfl, le_rfl⟩
  have forward : votes ⊆ others := by
    refine first.subset second covered covers ?_
    intro seen inside hit there mem provider sequence top
    rcases (split seen).mp inside with extra | own
    · obtain ⟨later, laterIn, laterSame, above⟩ := overtaken seen extra mem
      have := top later laterIn laterSame
      omega
    · rw [equal seen own hit there provider sequence]
  have backward : others ⊆ votes := by
    refine second.subset first covers covered ?_
    intro seen inside hit there mem provider sequence top
    rcases (split hit).mp there with extra | own
    · obtain ⟨later, laterIn, laterSame, above⟩ := overtaken hit extra (provider ▸ mem)
      have := top later ((split later).mpr (.inr laterIn)) (laterSame.trans provider)
      omega
    · rw [equal seen inside hit own provider sequence]
  exact (List.perm_ext_iff_of_nodup first.single.of_map second.single.of_map).mpr
    fun _ => ⟨fun inside => forward inside, fun inside => backward inside⟩

end Extras

/-- The median of prices: the one in the middle, or the mean of the two, rounded toward zero. -/
def IsMedian (prices : List Int) (median : Int) : Prop :=
  ∃ sorted : List Int, sorted.Perm prices ∧ sorted.Pairwise (· ≤ ·) ∧
    ((sorted.length % 2 = 1 ∧ sorted[sorted.length / 2]? = some median) ∨
      (sorted.length % 2 = 0 ∧ ∃ lower ∈ sorted[sorted.length / 2 - 1]?,
        ∃ upper ∈ sorted[sorted.length / 2]?, median = (lower + upper).tdiv 2))

theorem medianOf_isMedian {prices : List Int} {median : Int} (hit : medianOf prices = .ok median) :
    IsMedian prices median := by
  refine ⟨sortPrices prices, sortPrices_perm prices, sortPrices_sorted prices, ?_⟩
  simp only [medianOf] at hit
  split at hit
  next odd =>
    split at hit
    next price middle =>
      cases hit
      exact .inl ⟨odd, middle⟩
    next => cases hit
  next even =>
    split at hit
    next => cases hit
    next =>
      split at hit
      next lower upper pre middle =>
        split at hit
        next total added =>
          cases hit
          obtain ⟨_, rfl⟩ := (FixedWidth.Range.checked_eq_some _ _ _).mp added
          exact .inr ⟨by omega, lower, pre, upper, middle, rfl⟩
        next => cases hit
      next => cases hit

variable {config : QuorumConfig}

theorem acceptMedian_ok {prices : List Int} {median : Int}
    (accepted : acceptMedian config prices = .ok median) :
    config.minQuorum ≤ prices.length ∧ IsMedian prices median ∧
      ∀ price ∈ prices, ¬ deviates config median price := by
  rw [acceptMedian] at accepted
  split at accepted
  next => cases accepted
  next enough =>
    obtain ⟨hit, middle, accepted⟩ := bind_ok accepted
    split at accepted
    next => cases accepted
    next within =>
      cases accepted
      push Not at within
      exact ⟨not_lt.mp enough, medianOf_isMedian middle, within⟩

/-- The errors that concern a single observation come from elsewhere. -/
theorem acceptMedian_error (config : QuorumConfig) (prices : List Int) :
    acceptMedian config prices ≠ .error (.error .futureTimestamp) ∧
      acceptMedian config prices ≠ .error (.error .invalidPrice) := by
  rw [acceptMedian]
  split
  next => simp
  next =>
    cases medianOf_cases : medianOf prices with
    | error reason =>
      have trapped : reason = .trap := by
        simp only [medianOf] at medianOf_cases
        split at medianOf_cases <;> split at medianOf_cases <;> try (split at medianOf_cases)
        all_goals try (split at medianOf_cases)
        all_goals cases medianOf_cases <;> rfl
      subst trapped
      simp [bind, Except.bind]
    | ok median =>
      simp only [bind, Except.bind]
      split
      next => simp
      next => simp

/-- The deviation test as an exact comparison. -/
def Within (config : QuorumConfig) (median price : Int) : Prop :=
  |price - median| * 10000 ≤ median * config.maxDeviationBps

/-- What the test accepts is within the bound, unless both products leave the type. -/
theorem within_of_not_deviates {median price : Int} (accepted : ¬ deviates config median price) :
    Within config median price ↔ ¬ (i128.high ≤ median * config.maxDeviationBps ∧
      median * config.maxDeviationBps < |price - median| * 10000) := by
  have nonneg : 0 ≤ |price - median| * 10000 := Int.mul_nonneg (abs_nonneg _) (by decide)
  simp only [deviates, Within, FixedWidth.Range.clamp, i128_low, i128_high] at accepted ⊢
  generalize |price - median| * 10000 = spread at accepted nonneg ⊢
  generalize median * (config.maxDeviationBps : Int) = bound at accepted ⊢
  omega

structure Panel (authorized : List Address) (observations panel : List Observation) : Prop where
  single : (panel.map Observation.provider).Nodup
  latest : ∀ mem ∈ panel, mem ∈ observations ∧ mem.provider ∈ authorized ∧
    ∀ other ∈ observations, other.provider = mem.provider → other.sequence ≤ mem.sequence
  complete : ∀ seen ∈ observations, seen.provider ∈ authorized →
    ∃ mem ∈ panel, mem.provider = seen.provider

theorem exists_voters {past : List Observation} (votes : List Vote)
    (voted : ∀ vote ∈ votes, ∃ seen ∈ past, seen.vote = vote) :
    ∃ panel : List Observation, (∀ mem ∈ panel, mem ∈ past) ∧
      panel.map Observation.vote = votes := by
  induction votes with
  | nil => exact ⟨[], by simp, rfl⟩
  | cons vote rest ih =>
    obtain ⟨⟨seen, listed, rfl⟩, others⟩ := List.forall_mem_cons.mp voted
    obtain ⟨panel, inside, rfl⟩ := ih others
    exact ⟨seen :: panel, List.forall_mem_cons.mpr ⟨listed, inside⟩, rfl⟩

theorem Tallied.panel {authorized : List Address} {past : List Observation} {votes : List Vote}
    (kept : Tallied authorized past votes) :
    ∃ panel, Panel authorized past panel ∧ panel.map Observation.vote = votes := by
  obtain ⟨panel, inside, rfl⟩ := exists_voters votes fun vote mem => (kept.voted vote mem).2
  have single : (panel.map Observation.provider).Nodup := by
    have := kept.single
    rwa [List.map_map] at this
  refine ⟨panel, ⟨single, fun mem listed => ⟨inside mem listed,
    (kept.voted mem.vote (List.mem_map_of_mem listed)).1, fun other seen same => ?_⟩,
    fun seen listed permitted => ?_⟩, rfl⟩
  · obtain ⟨vote, voted, about, latest⟩ := kept.latest other seen
      (same ▸ (kept.voted mem.vote (List.mem_map_of_mem listed)).1)
    obtain ⟨voter, voterIn, rfl⟩ := List.mem_map.mp voted
    cases List.inj_on_of_nodup_map single voterIn listed (about.trans same)
    exact latest
  · obtain ⟨vote, voted, about, _⟩ := kept.latest seen listed permitted
    obtain ⟨voter, voterIn, rfl⟩ := List.mem_map.mp voted
    exact ⟨voter, voterIn, about⟩

theorem validateQuorum_valid {env : Env} {observations : List Observation}
    (authorized : List Address) (config : QuorumConfig)
    (valid : ∀ observation ∈ observations, observation.Valid env) :
    ∃ votes, Tallied authorized observations votes ∧
      validateQuorum env observations authorized config =
        acceptMedian config (votes.map Vote.price) := by
  have initially : Tallied authorized [] [] := ⟨List.nodup_nil, by simp, by simp⟩
  obtain ⟨votes, collected, kept⟩ := collectVotes_tallied observations
    (fun seen inside => (valid seen inside).1) initially
  refine ⟨votes, kept, ?_⟩
  rw [validateQuorum, if_neg, collected]
  · rfl
  · rintro ⟨seen, inside, future⟩
    exact absurd (valid seen inside).2 (not_le.mpr future)

theorem validateQuorum_invalid {env : Env} {observations : List Observation}
    {authorized : List Address} {config : QuorumConfig}
    (invalid : ¬ ∀ observation ∈ observations, observation.Valid env) :
    validateQuorum env observations authorized config = .error (.error .futureTimestamp) ∨
      validateQuorum env observations authorized config = .error (.error .invalidPrice) := by
  rw [validateQuorum]
  split
  next => exact .inl rfl
  next past =>
    push Not at past
    rw [collectVotes_stops]
    · exact .inr rfl
    · by_contra pos
      push Not at pos
      exact invalid fun seen inside => ⟨pos seen inside, past seen inside⟩

/-- Harmless extra observations anywhere leave the result as it is exactly when they are
positive and not in the future. An accepted price is the median of the authorized providers'
latest prices, of which there are enough; each is within the bound exactly unless the bound
and its deviation both leave the type. -/
theorem quorum_by_latest (env : Env) (authorized : List Address) (config : QuorumConfig)
    (observations extras listed : List Observation)
    (valid : ∀ observation ∈ observations, observation.Valid env)
    (distinct : (observations.map fun seen => (seen.provider, seen.sequence)).Nodup)
    (harmless : ∀ extra ∈ extras, extra.Harmless authorized observations)
    (same : listed.Perm (extras ++ observations)) : (validateQuorum env listed authorized config =
        validateQuorum env observations authorized config ↔ ∀ extra ∈ extras, extra.Valid env) ∧
    ∀ median, validateQuorum env observations authorized config = .ok median →
      ∃ panel, Panel authorized observations panel ∧ config.minQuorum ≤ panel.length ∧
        IsMedian (panel.map fun mem => (mem.price : Int)) median ∧
        ∀ mem ∈ panel, Within config median mem.price ↔
          ¬ (i128.high ≤ median * config.maxDeviationBps ∧
            median * config.maxDeviationBps < |(mem.price : Int) - median| * 10000) := by
  obtain ⟨votes, tallied, decided⟩ := validateQuorum_valid authorized config valid
  refine ⟨⟨fun equal => ?_, fun pos => ?_⟩, fun median accepted => ?_⟩
  · by_contra bad
    have invalid : ¬ ∀ observation ∈ listed, observation.Valid env := fun all =>
      bad fun extra inside => all extra (same.mem_iff.mpr (List.mem_append_left _ inside))
    obtain ⟨notFuture, notPrice⟩ := acceptMedian_error config (votes.map Vote.price)
    rcases @validateQuorum_invalid env listed authorized config invalid with future | price
    · exact notFuture (by rw [← decided, ← equal, future])
    · exact notPrice (by rw [← decided, ← equal, price])
  · have all : ∀ observation ∈ listed, observation.Valid env := by
      intro seen inside
      rcases List.mem_append.mp (same.mem_iff.mp inside) with extra | own
      · exact pos seen extra
      · exact valid seen own
    obtain ⟨others, talliedToo, decidedToo⟩ := validateQuorum_valid authorized config all
    rw [decided, decidedToo]
    exact acceptMedian_congr ((talliedToo.perm tallied distinct harmless same).map Vote.price)
  · rw [decided] at accepted
    obtain ⟨enough, middle, close⟩ := acceptMedian_ok accepted
    obtain ⟨panel, latest, rfl⟩ := tallied.panel
    rw [List.map_map] at middle
    refine ⟨panel, latest, by simpa using enough, middle, fun mem inside => ?_⟩
    exact within_of_not_deviates (close mem.price
      (List.mem_map.mpr ⟨mem.vote, List.mem_map_of_mem inside, rfl⟩))

/-- An observation at sequence one and time zero. -/
def observed (provider price : Nat) : Observation := ⟨provider, amountOf price, 1, 0⟩

/-- Quorums of three with a tenth of deviation. -/
def defaultQuorum : QuorumConfig := ⟨3, amountOf 1000⟩

/-- An outsider's price of zero stops a quorum that would be reached, and a price far from
the median of two that are very large is accepted. -/
theorem outsider_stops_quorum :
    validateQuorum (.at 0 0 []) [observed 1 100, observed 2 100, observed 3 100] [1, 2, 3]
      defaultQuorum = .ok 100 ∧ validateQuorum (.at 0 0 [])
      [observed 1 100, observed 2 100, observed 3 100, observed 9 0] [1, 2, 3] defaultQuorum =
      .error (.error .invalidPrice) ∧ validateQuorum (.at 0 0 [])
      [observed 1 1, observed 2 (10 ^ 38), observed 3 (10 ^ 38)] [1, 2, 3] defaultQuorum =
      .ok (10 ^ 38) ∧ ¬ Within defaultQuorum (10 ^ 38) 1 := by
  refine ⟨by decide +kernel, by decide +kernel, by decide +kernel, ?_⟩
  unfold Within
  decide +kernel

/-- An outsider and an older observation between the others change nothing. -/
theorem quorum_of_three : (validateQuorum (.at 0 0 [])
        [observed 9 5, observed 3 101, ⟨1, amountOf 7, 0, 0⟩, observed 1 100, observed 2 102]
        [1, 2, 3] defaultQuorum =
      validateQuorum (.at 0 0 []) [observed 3 101, observed 1 100, observed 2 102] [1, 2, 3]
        defaultQuorum ↔
      ∀ extra ∈ [observed 9 5, ⟨1, amountOf 7, 0, 0⟩], Observation.Valid (.at 0 0 []) extra) ∧
    ∀ median, validateQuorum (.at 0 0 [])
        [observed 3 101, observed 1 100, observed 2 102] [1, 2, 3] defaultQuorum = .ok median →
      ∃ panel, Panel [1, 2, 3] [observed 3 101, observed 1 100, observed 2 102] panel ∧
        defaultQuorum.minQuorum ≤ panel.length ∧
        IsMedian (panel.map fun mem => (mem.price : Int)) median ∧
        ∀ mem ∈ panel, Within defaultQuorum median mem.price ↔
          ¬ (i128.high ≤ median * defaultQuorum.maxDeviationBps ∧
            median * defaultQuorum.maxDeviationBps <
              |(mem.price : Int) - median| * 10000) :=
  quorum_by_latest (.at 0 0 []) [1, 2, 3] defaultQuorum
    [observed 3 101, observed 1 100, observed 2 102] [observed 9 5, ⟨1, amountOf 7, 0, 0⟩]
    [observed 9 5, observed 3 101, ⟨1, amountOf 7, 0, 0⟩, observed 1 100, observed 2 102]
    (by decide) (by decide) (by decide) (by decide)

end StellarSwipe.Oracle
