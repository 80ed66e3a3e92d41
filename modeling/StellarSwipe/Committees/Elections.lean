import StellarSwipe.Committees.Effects

/-!
# Results of elections

A ballot counts when its voter has stake and its candidate is nominated.
-/

namespace StellarSwipe.Committees

open FixedWidth Program Governance Authority Table List

inductive ElectionStatus where
  | succeeded
  | failedQuorumParticipation
  | failedQuorumStake
  | failedInsufficientWinners
deriving DecidableEq

structure ElectionResult where
  status : ElectionStatus
  winners : List Address
  validVotes : Nat
  totalStakeWeight : Int
  rejectedVotes : Nat

/-- The ballots with their voters. -/
def CommitteeElection.ballots (election : CommitteeElection) : List (Address × Address) :=
  election.votes.entries.map fun entry => (entry.1, entry.2)

/-- A ballot whose voter has stake and whose candidate is nominated. -/
def BallotCounts (staked : Address → Int) (candidates : List Address)
    (ballot : Address × Address) : Prop :=
  ¬ (staked ballot.1 ≤ 0 ∨ ballot.2 ∉ candidates)
deriving Decidable

/-- The same call with its result. A failed election names no winners. -/
def finalizeElectionResult (env : Env) (committeeId : Nat) : CommitteeProgram ElectionResult := do
  let election ← getElection committeeId
  ensure (¬ env.timestamp < election.electionEnd) .committeeElectionNotActive
  let store ← get
  let tally ← onGovernance (Program.ofExcept
    (tallyElectionVotes (stakedBalance store) election.candidates election.ballots ⟨∅, 0, 0⟩))
  let rejected := min (election.ballots.countP fun ballot =>
    ¬ BallotCounts (stakedBalance store) election.candidates ballot) u32Max
  if 0 < election.minParticipation ∧ tally.validVotes < election.minParticipation then do
    removeElection committeeId
    pure ⟨.failedQuorumParticipation, [], tally.validVotes, tally.totalStakeWeight, rejected⟩
  else if 0 < election.quorumStakeThreshold ∧
      tally.totalStakeWeight < election.quorumStakeThreshold then do
    removeElection committeeId
    pure ⟨.failedQuorumStake, [], tally.validVotes, tally.totalStakeWeight, rejected⟩
  else
    let winners := selectElectionWinners tally.candidateVotes.read election.candidates
      election.positionsAvailable []
    if winners.length < 3 then do
      removeElection committeeId
      pure ⟨.failedInsufficientWinners, [], tally.validVotes, tally.totalStakeWeight, rejected⟩
    else do
      let committee ← getCommittee committeeId
      let chair ← orTrap winners.head?
      putCommittee committeeId { committee with
        members := winners
        chair }
      removeElection committeeId
      pure ⟨.succeeded, winners, tally.validVotes, tally.totalStakeWeight, rejected⟩

/-- A call of the contract finalizes and drops the result. -/
theorem finalizeElection_eq (env : Env) (committeeId : Nat) :
    finalizeElection env committeeId = discard (finalizeElectionResult env committeeId) := by
  rw [show discard (finalizeElectionResult env committeeId) =
    (fun _ => PUnit.unit) <$> finalizeElectionResult env committeeId from rfl]
  simp only [finalizeElection, finalizeElectionResult, map_bind, CommitteeElection.ballots]
  refine bind_congr fun election => ?_
  refine bind_congr fun _ => ?_
  refine bind_congr fun store => ?_
  refine bind_congr fun tally => ?_
  by_cases few : 0 < election.minParticipation ∧ tally.validVotes < election.minParticipation
  · simp [few]
  · by_cases light : 0 < election.quorumStakeThreshold ∧
        tally.totalStakeWeight < election.quorumStakeThreshold
    · simp [few, light]
    · simp only [few, light, false_or, if_false]
      split <;> simp

section Counting

variable {staked : Address → Int} {candidates : List Address}

def stakeBehind (staked : Address → Int) (ballots : List (Address × Address))
    (candidate : Address) : Int :=
  ((ballots.filter fun ballot => decide (ballot.2 = candidate)).map fun ballot =>
    staked ballot.1).sum

/-- The tally adds what the ballots that count say. The induction is on the ballots. -/
theorem tallyElectionVotes_spec {ballots : List (Address × Address)} {tally result : ElectionTally}
    {count : Nat} (counted : tally.validVotes = min count u32Max)
    (tallied : tallyElectionVotes staked candidates ballots tally = .ok result) :
    (∀ candidate, result.candidateVotes.read candidate = tally.candidateVotes.read candidate +
        stakeBehind staked (ballots.filter (BallotCounts staked candidates)) candidate) ∧
      result.validVotes =
        min (count + (ballots.filter (BallotCounts staked candidates)).length) u32Max ∧
      result.totalStakeWeight = tally.totalStakeWeight +
        ((ballots.filter (BallotCounts staked candidates)).map fun ballot =>
          staked ballot.1).sum := by
  induction ballots generalizing tally count with
  | nil =>
    cases Except.ok.inj tallied
    simp [stakeBehind, counted]
  | cons ballot rest ih =>
    obtain ⟨voter, chosen⟩ := ballot
    rw [tallyElectionVotes] at tallied
    split at tallied
    next invalid =>
      have dropped : ¬ BallotCounts staked candidates (voter, chosen) := not_not.mpr invalid
      rw [filter_cons_of_neg (by simpa using dropped)]
      exact ih counted tallied
    next valid =>
      have counts : BallotCounts staked candidates (voter, chosen) := valid
      obtain ⟨behind, isBehind, tallied⟩ := bind_ok tallied
      obtain ⟨total, isTotal, tallied⟩ := bind_ok tallied
      obtain ⟨_, rfl⟩ := checkedAdd_ok isBehind
      obtain ⟨_, rfl⟩ := checkedAdd_ok isTotal
      obtain ⟨votes, number, stake⟩ := @ih _ (count + 1)
        (by rw [counted, saturating_count_min]) tallied
      rw [filter_cons_of_pos (by simpa using counts)]
      refine ⟨fun candidate => ?_, ?_, ?_⟩
      · rw [votes, read_insert]
        by_cases same : candidate = chosen
        · subst same
          simp [stakeBehind]
          omega
        · simp [stakeBehind, same, Ne.symm same]
      · rw [number, length_cons]
        congr 1
        omega
      · rw [stake]
        simp
        omega

end Counting

section Selecting

variable {votes : Address → Int} {candidates : List Address}

theorem bestCandidate_spec {candidates : List Address} : match bestCandidate votes candidates with
    | none => candidates = []
    | some best => best ∈ candidates ∧ ∀ candidate ∈ candidates, votes candidate ≤ votes best := by
  induction candidates with
  | nil => rfl
  | cons candidate rest ih =>
    rw [bestCandidate]
    cases isBest : bestCandidate votes rest with
    | none =>
      rw [isBest] at ih
      simp [ih]
    | some best =>
      rw [isBest] at ih
      obtain ⟨inside, most⟩ := ih
      by_cases less : votes candidate < votes best
      · simp only [if_pos less]
        exact ⟨mem_cons_of_mem _ inside, List.forall_mem_cons.mpr ⟨less.le, most⟩⟩
      · simp only [if_neg less]
        exact ⟨mem_cons_self, List.forall_mem_cons.mpr
          ⟨le_rfl, fun other mem => (most other mem).trans (not_lt.mp less)⟩⟩

/-- No candidate that is not selected has more votes than one that is. -/
def Greatest (votes : Address → Int) (candidates winners : List Address) : Prop :=
  ∀ candidate ∈ candidates, candidate ∉ winners → ∀ winner ∈ winners, votes candidate ≤ votes winner

theorem length_le_card {winners : List Address} (distinct : winners.Nodup)
    (inside : winners ⊆ candidates) : winners.length ≤ candidates.toFinset.card := by
  rw [← toFinset_card_of_nodup distinct]
  exact Finset.card_le_card fun winner mem =>
    List.mem_toFinset.mpr (inside (List.mem_toFinset.mp mem))

/-- Distinct candidates with the most votes are selected, as many as there are positions or
candidates. The induction is on the positions that are left. -/
theorem selectElectionWinners_spec {positions : Nat} {winners : List Address}
    (distinct : winners.Nodup) (inside : winners ⊆ candidates)
    (greatest : Greatest votes candidates winners) :
    (selectElectionWinners votes candidates positions winners).Nodup ∧
      selectElectionWinners votes candidates positions winners ⊆ candidates ∧
      Greatest votes candidates (selectElectionWinners votes candidates positions winners) ∧
      (selectElectionWinners votes candidates positions winners).length =
        min (winners.length + positions) candidates.toFinset.card := by
  induction positions generalizing winners with
  | zero =>
    refine ⟨distinct, inside, greatest, ?_⟩
    simpa [selectElectionWinners] using length_le_card distinct inside
  | succ positions ih =>
    rw [selectElectionWinners]
    have best := @bestCandidate_spec votes
      (candidates.filter fun candidate => decide (candidate ∉ winners))
    split
    next none =>
      rw [none] at best
      have few := length_le_card distinct inside
      have all : candidates.toFinset.card ≤ winners.length := by
        rw [← toFinset_card_of_nodup distinct]
        refine Finset.card_le_card fun candidate mem => ?_
        have selected := List.filter_eq_nil_iff.mp best candidate (List.mem_toFinset.mp mem)
        simpa using selected
      exact ⟨distinct, inside, greatest, by omega⟩
    next first isFirst =>
      rw [isFirst] at best
      obtain ⟨mem, most⟩ := best
      obtain ⟨nominated, fresh⟩ := List.mem_filter.mp mem
      have unselected : first ∉ winners := of_decide_eq_true fresh
      have apart : (winners ++ [first]).Nodup := by
        refine List.nodup_append.mpr ⟨distinct, nodup_singleton _, ?_⟩
        intro winner old other single same
        rw [List.mem_singleton.mp single] at same
        exact unselected (same ▸ old)
      have listed : winners ++ [first] ⊆ candidates :=
        List.append_subset.mpr
          ⟨inside, fun other single => List.mem_singleton.mp single ▸ nominated⟩
      have above : Greatest votes candidates (winners ++ [first]) := by
        intro candidate standing out winner chosen
        obtain ⟨notWinner, notFirst⟩ := not_or.mp fun either => out (List.mem_append.mpr either)
        rcases Runs.mem_snoc.mp chosen with old | rfl
        · exact greatest candidate standing notWinner winner old
        · exact most candidate (List.mem_filter.mpr ⟨standing, decide_eq_true notWinner⟩)
      have more := ih apart listed above
      rw [length_append, length_singleton, Nat.add_assoc, Nat.add_comm 1] at more
      exact more

end Selecting

section Seats

variable (staked : Address → Int) (election : CommitteeElection)

def validBallots : List (Address × Address) :=
  election.ballots.filter (BallotCounts staked election.candidates)

/-- The candidates with at least one ballot that counts. -/
def votedFor : Finset Address := ((validBallots staked election).map Prod.snd).toFinset

/-- Enough voters and enough stake take part. The count of voters saturates. -/
def QuorumMet : Prop :=
  ¬ (0 < election.minParticipation ∧
      min (validBallots staked election).length u32Max < election.minParticipation) ∧
    ¬ (0 < election.quorumStakeThreshold ∧
      ((validBallots staked election).map fun ballot => staked ballot.1).sum <
        election.quorumStakeThreshold)
deriving Decidable

/-- The winners are distinct candidates with votes, nobody else has more, and they fill the
positions as far as there are candidates with votes. -/
structure FairSeats (winners : List Address) : Prop where
  distinct : winners.Nodup
  voted : ∀ winner ∈ winners, winner ∈ votedFor staked election
  greatest : Greatest (stakeBehind staked (validBallots staked election)) election.candidates
    winners
  filled : winners.length = min election.positionsAvailable (votedFor staked election).card

/-- What an election comes to: fair seats if the quorum is met and three candidates with votes
can be seated, and the same committee otherwise. -/
def ElectionFair (result : ElectionResult) (pre after : Option Committee) : Prop :=
  if QuorumMet staked election ∧
      3 ≤ min election.positionsAvailable (votedFor staked election).card then
    result.status = .succeeded ∧ FairSeats staked election result.winners ∧
      ∃ committee ∈ pre, ∃ chair ∈ result.winners.head?,
        after = some { committee with
          members := result.winners
          chair }
  else result.status ≠ .succeeded ∧ after = pre

/-- No seat is left over for a candidate without a vote, if there is a quorum and at least
three candidates can be seated. -/
def SeatsHaveVotes : Prop :=
  QuorumMet staked election →
    3 ≤ min election.positionsAvailable election.candidates.toFinset.card →
    min election.positionsAvailable election.candidates.toFinset.card ≤
      (votedFor staked election).card
deriving Decidable

variable {staked election}

theorem mem_votedFor {candidate : Address} : candidate ∈ votedFor staked election ↔
      ∃ ballot ∈ validBallots staked election, ballot.2 = candidate := by
  simp [votedFor]

theorem votedFor_subset : votedFor staked election ⊆ election.candidates.toFinset := by
  intro candidate voted
  obtain ⟨ballot, mem, rfl⟩ := mem_votedFor.mp voted
  have counts := of_decide_eq_true (List.mem_filter.mp mem).2
  exact List.mem_toFinset.mpr (not_not.mp (not_or.mp counts).2)

theorem voted_iff {candidate : Address} : candidate ∈ votedFor staked election ↔
      0 < stakeBehind staked (validBallots staked election) candidate := by
  have pos : ∀ ballot ∈ validBallots staked election, 0 < staked ballot.1 := by
    intro ballot mem
    have counts := of_decide_eq_true (List.mem_filter.mp mem).2
    exact not_le.mp (not_or.mp counts).1
  rw [mem_votedFor, stakeBehind]
  constructor
  · rintro ⟨ballot, mem, chosen⟩
    refine sum_pos _ ?_ ?_
    · intro stake listed
      obtain ⟨other, inside, rfl⟩ := List.mem_map.mp listed
      exact pos other (List.mem_filter.mp inside).1
    · intro none
      rw [map_eq_nil_iff, filter_eq_nil_iff] at none
      exact none ballot mem (decide_eq_true chosen)
  · intro some
    by_contra nobody
    have none : (validBallots staked election).filter
        (fun ballot => decide (ballot.2 = candidate)) = [] := by
      refine List.filter_eq_nil_iff.mpr fun ballot mem chosen => ?_
      exact nobody ⟨ballot, mem, of_decide_eq_true chosen⟩
    rw [none] at some
    exact absurd some (lt_irrefl 0)

theorem voted_of_greatest {winners : List Address} (distinct : winners.Nodup)
    (greatest : Greatest (stakeBehind staked (validBallots staked election)) election.candidates
      winners) (enough : winners.length ≤ (votedFor staked election).card) :
    ∀ winner ∈ winners, winner ∈ votedFor staked election := by
  intro winner chosen
  by_contra unvoted
  -- everybody with votes would have to be another winner
  have others : votedFor staked election ⊆ winners.toFinset.erase winner := by
    intro candidate voted
    refine Finset.mem_erase.mpr ⟨fun same => unvoted (same ▸ voted), List.mem_toFinset.mpr ?_⟩
    by_contra out
    have nominated := List.mem_toFinset.mp (votedFor_subset voted)
    have most := greatest candidate nominated out winner chosen
    exact unvoted (voted_iff.mpr ((voted_iff.mp voted).trans_le most))
  have fewer := Finset.card_le_card others
  rw [Finset.card_erase_of_mem (List.mem_toFinset.mpr chosen),
    toFinset_card_of_nodup distinct] at fewer
  have some := length_pos_of_mem chosen
  omega

theorem winners_selected (votes : Address → Int) (candidates : List Address) (positions : Nat) :
    (selectElectionWinners votes candidates positions []).Nodup ∧
      Greatest votes candidates (selectElectionWinners votes candidates positions []) ∧
      (selectElectionWinners votes candidates positions []).length =
        min positions candidates.toFinset.card := by
  obtain ⟨distinct, _, greatest, length⟩ := @selectElectionWinners_spec votes candidates positions
    [] nodup_nil (nil_subset _) fun _ _ _ winner chosen => by cases chosen
  rw [length_nil, Nat.zero_add] at length
  exact ⟨distinct, greatest, length⟩

theorem winners_fair (enough : min election.positionsAvailable election.candidates.toFinset.card ≤
      (votedFor staked election).card) : FairSeats staked election (selectElectionWinners
      (stakeBehind staked (validBallots staked election)) election.candidates
      election.positionsAvailable []) := by
  obtain ⟨distinct, greatest, length⟩ := winners_selected
    (stakeBehind staked (validBallots staked election)) election.candidates
    election.positionsAvailable
  have few := Finset.card_le_card (@votedFor_subset staked election)
  refine ⟨distinct, voted_of_greatest distinct greatest (length ▸ enough), greatest, ?_⟩
  omega

end Seats

section Finalizing

variable {pre : CommitteeStore}

theorem wp_tallied {α : Type} {value : Except GovernanceError α}
    {post : α → CommitteeStore → Prop} (holds : ∀ hit, value = .ok hit → post hit pre) :
    wp (onGovernance (Program.ofExcept value)) post (fun _ _ => True) pre := by
  rw [onGovernance, onAuthority, Authority.onGovernance, wp_zoom, wp_zoom, wp_ofExcept]
  exact ⟨holds, fun _ _ => trivial⟩

/-- What the code seats: the greatest of all nominated candidates. -/
def Seated (staked : Address → Int) (election : CommitteeElection) (result : ElectionResult)
    (pre after : Option Committee) : Prop :=
  if QuorumMet staked election ∧
      3 ≤ min election.positionsAvailable election.candidates.toFinset.card then
    result.status = .succeeded ∧
      result.winners = selectElectionWinners (stakeBehind staked (validBallots staked election))
        election.candidates election.positionsAvailable [] ∧
      ∃ committee ∈ pre, ∃ chair ∈ result.winners.head?,
        after = some { committee with
          members := result.winners
          chair }
  else result.status ≠ .succeeded ∧ after = pre

theorem finalizeElectionResult_seats (env : Env) (committeeId : Nat) :
    wp (finalizeElectionResult env committeeId) (fun result after => ∃ election,
        pre.committees.elections.lookup committeeId = some election ∧
        Seated (stakedBalance pre) election result (pre.committees.committees.lookup committeeId)
          (after.committees.committees.lookup committeeId)) (fun _ _ => True) pre := by
  rw [finalizeElectionResult, wp_bind, wp_getElection]
  intro election standing
  simp only [wp_bind, wp_ensure, wp_get, implies_true, and_true]
  intro _
  refine wp_tallied fun tally tallied => ?_
  obtain ⟨votes, number, stake⟩ := @tallyElectionVotes_spec _ _ _ ⟨∅, 0, 0⟩ tally 0 rfl tallied
  simp only [read_empty, zero_add] at votes number stake
  have reads : tally.candidateVotes.read =
      stakeBehind (stakedBalance pre) (validBallots (stakedBalance pre) election) :=
    funext votes
  have counted : tally.validVotes =
      min (validBallots (stakedBalance pre) election).length u32Max := number
  have weighed : tally.totalStakeWeight = ((validBallots (stakedBalance pre) election).map
      fun ballot => stakedBalance pre ballot.1).sum := stake
  obtain ⟨_, _, length⟩ := winners_selected
    (stakeBehind (stakedBalance pre) (validBallots (stakedBalance pre) election))
    election.candidates election.positionsAvailable
  rw [counted, weighed, reads]
  simp only [wp_ite, wp_bind, wp_pure, removeElection, putCommittee, writeState, wp_modify]
  refine ⟨fun few => ⟨election, standing, ?_⟩, fun many => ⟨fun light => ⟨election, standing, ?_⟩,
    fun heavy => ⟨fun short => ⟨election, standing, ?_⟩, fun long => ?_⟩⟩⟩
  · rw [Seated, if_neg fun both => both.1.1 few]
    exact ⟨fun succeeded => (by cases succeeded), rfl⟩
  · rw [Seated, if_neg fun both => both.1.2 light]
    exact ⟨fun succeeded => (by cases succeeded), rfl⟩
  · rw [Seated, if_neg fun both => by omega]
    exact ⟨fun succeeded => (by cases succeeded), rfl⟩
  · rw [wp_getCommittee]
    intro committee has
    simp only [wp_orTrap, implies_true, and_true]
    intro chair isChair
    refine ⟨election, standing, ?_⟩
    rw [Seated, if_pos ⟨⟨many, heavy⟩, by omega⟩]
    exact ⟨rfl, rfl, committee, has, chair, isChair, AList.lookup_insert _⟩

/-- A finalized election is fair exactly when its seats have votes. -/
theorem election_result (env : Env) (committeeId : Nat) (election : CommitteeElection)
    (result : ElectionResult) (pre after : CommitteeStore)
    (standing : pre.committees.elections.lookup committeeId = some election)
    (gave : finalizeElectionResult env committeeId pre = .ok result after) :
    ElectionFair (stakedBalance pre) election result (pre.committees.committees.lookup committeeId)
        (after.committees.committees.lookup committeeId) ↔
      SeatsHaveVotes (stakedBalance pre) election := by
  obtain ⟨hit, isFound, seated⟩ := wp_ok (finalizeElectionResult_seats env committeeId) gave
  cases Option.mem_unique standing isFound
  have few := Finset.card_le_card (@votedFor_subset (stakedBalance pre) election)
  rw [Seated] at seated
  by_cases quorum : QuorumMet (stakedBalance pre) election
  · by_cases seats : 3 ≤ min election.positionsAvailable election.candidates.toFinset.card
    · rw [if_pos ⟨quorum, seats⟩] at seated
      obtain ⟨succeeded, isWinners, replaced⟩ := seated
      constructor
      · intro fair _ _
        rw [ElectionFair] at fair
        split at fair
        next =>
          have filled := fair.2.1.filled
          obtain ⟨_, _, length⟩ := winners_selected (stakeBehind (stakedBalance pre)
            (validBallots (stakedBalance pre) election)) election.candidates
            election.positionsAvailable
          rw [← isWinners] at length
          omega
        next => exact absurd succeeded fair.1
      · intro enough
        have all := enough quorum seats
        rw [ElectionFair, if_pos ⟨quorum, by omega⟩]
        exact ⟨succeeded, isWinners ▸ winners_fair all, replaced⟩
    · rw [if_neg fun both => seats both.2] at seated
      rw [ElectionFair, if_neg fun both => by omega]
      exact iff_of_true seated fun _ some => absurd some seats
  · rw [if_neg fun both => quorum both.1] at seated
    rw [ElectionFair, if_neg fun both => quorum both.1]
    exact iff_of_true seated fun met => absurd met quorum

end Finalizing

section Unvoted

open Runs

/-- An election of three members among three candidates, in which the first of two stakers
votes. -/
def oneBallot : List CommitteeInput :=
  [⟨⟨1, 1, [1]⟩, .other (.initializeContract 1 "Governance" "GOV" ⟨31000, by decide⟩
      ⟨2, 3, 4, 5, 6⟩)⟩,
    ⟨⟨1, 1, [1]⟩, .create .direct 1 "Grants" "Grants" [20, 21, 22] 20 3
      [.emergencyAction ["pause"]] none⟩,
    ⟨⟨1, 1, [4]⟩, .other (.governance (.governance (.power (.stake 4 ⟨41, by decide⟩))))⟩,
    ⟨⟨1, 1, [5]⟩, .other (.governance (.governance (.power (.stake 5 ⟨29, by decide⟩))))⟩,
    ⟨⟨1, 1, [1]⟩, .startElection 1 1 3 1 1 ⟨39, by decide⟩⟩,
    ⟨⟨1, 1, [30, 4]⟩, .nominate 1 30 4⟩, ⟨⟨1, 1, [31, 4]⟩, .nominate 1 31 4⟩,
    ⟨⟨1, 1, [32, 4]⟩, .nominate 1 32 4⟩, ⟨⟨1, 1, [4]⟩, .voteInElection 1 4 30⟩]

def electionAfter (calls : List CommitteeInput) : CommitteeStore :=
  (final committeeStep (committeeStart 0 0) calls).store

def firstElection (store : CommitteeStore) : CommitteeElection :=
  (store.committees.elections.lookup 1).getD ⟨[], ∅, 0, 0, 0, 0, 0⟩

def noResult : ElectionResult := ⟨.failedQuorumStake, [], 0, 0, 0⟩

/-- Every candidate has the vote of a staker. -/
def threeBallots : List CommitteeInput :=
  oneBallot ++ [⟨⟨1, 1, [5]⟩, .voteInElection 1 5 31⟩,
    ⟨⟨1, 1, [6]⟩, .other (.governance (.governance (.power (.stake 6 (amountOf 7)))))⟩,
    ⟨⟨1, 1, [6]⟩, .voteInElection 1 6 32⟩]

theorem three_ballots_result :
    ElectionFair (stakedBalance (electionAfter threeBallots))
      (firstElection (electionAfter threeBallots))
      (valueOr noResult (finalizeElectionResult (.at 90000 90000 [1]) 1)
        (electionAfter threeBallots)) ((electionAfter threeBallots).committees.committees.lookup 1)
      ((invoke (finalizeElectionResult (.at 90000 90000 [1]) 1)
        (electionAfter threeBallots)).committees.committees.lookup 1) := by
  have standing : ((electionAfter threeBallots).committees.elections.lookup 1).isSome = true := by
    decide +kernel
  have accepts : Accepts (finalizeElectionResult (.at 90000 90000 [1]) 1)
      (electionAfter threeBallots) := by decide +kernel
  have seats : SeatsHaveVotes (stakedBalance (electionAfter threeBallots))
      (firstElection (electionAfter threeBallots)) := by decide +kernel
  generalize electionAfter threeBallots = store at standing accepts seats ⊢
  obtain ⟨election, hit⟩ := Option.isSome_iff_exists.mp standing
  have first : firstElection store = election := by
    rw [firstElection, hit]
    rfl
  obtain ⟨result, gave⟩ := gave_of_accepts accepts
  rw [valueOr_of_ok gave, first]
  exact (election_result (.at 90000 90000 [1]) 1 election result store _ hit gave).mpr
    (first ▸ seats)

/-- Two candidates without a vote are seated. -/
theorem unvoted_seated :
    ¬ ∀ (env : Env) (committeeId : Nat) (election : CommitteeElection) (result : ElectionResult)
        (pre after : CommitteeStore), pre.committees.elections.lookup committeeId = some election →
        finalizeElectionResult env committeeId pre = .ok result after →
        ElectionFair (stakedBalance pre) election result
          (pre.committees.committees.lookup committeeId)
          (after.committees.committees.lookup committeeId) := by
  intro every
  obtain ⟨election, standing⟩ := Option.isSome_iff_exists.mp (show
    ((electionAfter oneBallot).committees.elections.lookup 1).isSome = true by decide +kernel)
  have same : firstElection (electionAfter oneBallot) = election := by
    rw [firstElection, standing]
    rfl
  obtain ⟨result, gave⟩ := gave_of_accepts (show
    Accepts (finalizeElectionResult (.at 90000 90000 [1]) 1) (electionAfter oneBallot) by
      decide +kernel)
  have succeeded : (valueOr noResult (finalizeElectionResult (.at 90000 90000 [1]) 1)
      (electionAfter oneBallot)).status = .succeeded := by decide +kernel
  have fair := every (.at 90000 90000 [1]) 1 election result _ _ standing gave
  rw [valueOr_of_ok gave] at succeeded
  rw [ElectionFair, ← same, if_neg (by decide +kernel)] at fair
  exact fair.1 succeeded

end Unvoted

end StellarSwipe.Committees
