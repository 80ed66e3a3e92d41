import StellarSwipe.Committees.Effects
import StellarSwipe.Authority.Grants

/-!
# Decisions with a real majority

Votes are counted for good, while an election may replace the members at any time.
-/

namespace StellarSwipe.Committees

open FixedWidth Program Governance Authority Runs OneShot CommitteeDecision List AList

/-- Those whose recorded vote is of a type. -/
def CommitteeDecision.ballots (decision : CommitteeDecision) (voteType : VoteType) :
    Finset Address :=
  decision.votes.keys.toFinset.filter fun voter =>
    decision.votes.lookup voter = some voteType

/-- Only members voted, and more of them for the decision than against it. -/
structure CommitteeDecision.RealMajority (decision : CommitteeDecision)
    (members : List Address) : Prop where
  voters : ∀ voter ∈ decision.votes.keys, voter ∈ members
  majority : (decision.ballots .against).card < (decision.ballots .for).card

/-- The counters are the numbers of recorded votes. -/
structure CommitteeDecision.Tallied (decision : CommitteeDecision) : Prop where
  votesFor : decision.votesFor = min (decision.ballots .for).card u32Max
  votesAgainst : decision.votesAgainst = min (decision.ballots .against).card u32Max

section Votes

variable {decision old : CommitteeDecision} {voter : Address} {voteType : VoteType}

theorem CommitteeDecision.mem_ballots : voter ∈ decision.ballots voteType ↔
    decision.votes.lookup voter = some voteType := by
  rw [ballots, Finset.mem_filter, mem_toFinset, and_iff_right_iff_imp]
  intro hit
  exact AList.mem_keys.mp (AList.lookup_isSome.mp (by rw [hit]; rfl))

theorem CommitteeDecision.IsNew.tallied (new : decision.IsNew) : decision.Tallied := by
  have none (voteType : VoteType) : decision.ballots voteType = ∅ := by
    rw [ballots, new.votes]
    rfl
  exact ⟨by rw [new.votesFor, none]; rfl, by rw [new.votesAgainst, none]; rfl⟩

theorem CommitteeDecision.Tallied.follow (tallied : old.Tallied) (follows : old.Follows decision) :
    decision.Tallied := by
  have same (voteType : VoteType) : decision.ballots voteType = old.ballots voteType := by
    rw [ballots, ballots, follows.votes]
  exact ⟨by rw [follows.votesFor, same]; exact tallied.votesFor,
    by rw [follows.votesAgainst, same]; exact tallied.votesAgainst⟩

@[simp] theorem CommitteeDecision.voted_votes (members : Nat) :
    (decision.voted voter voteType members).votes = decision.votes.insert voter voteType := by
  cases voteType <;> rfl

theorem CommitteeDecision.voted_ballots (fresh : decision.votes.lookup voter = none)
    (members : Nat) (other : VoteType) : (decision.voted voter voteType members).ballots other =
      if other = voteType then insert voter (decision.ballots other)
      else decision.ballots other := by
  ext candidate
  rw [mem_ballots, voted_votes]
  by_cases same : candidate = voter
  · subst same
    rw [lookup_insert]
    split
    next equal => simp [equal]
    next different =>
      rw [mem_ballots, fresh]
      simp [Ne.symm different]
  · rw [lookup_insert_ne same]
    split
    next => simp [mem_ballots, same]
    next => rw [mem_ballots]

theorem CommitteeDecision.voted_card (fresh : decision.votes.lookup voter = none)
    (members : Nat) (other : VoteType) :
    ((decision.voted voter voteType members).ballots other).card =
      (decision.ballots other).card + if other = voteType then 1 else 0 := by
  rw [voted_ballots fresh]
  split
  next => exact Finset.card_insert_of_notMem (by rw [mem_ballots, fresh]; simp)
  next => rfl

theorem CommitteeDecision.Tallied.vote (tallied : decision.Tallied)
    (fresh : decision.votes.lookup voter = none) (members : Nat) :
    (decision.voted voter voteType members).Tallied := by
  have votesFor := tallied.votesFor
  have votesAgainst := tallied.votesAgainst
  refine ⟨?_, ?_⟩
  · rw [voted_card fresh]
    cases voteType with
    | «for» =>
      show satCount u32Max decision.votesFor 1 = _
      simp only [satCount, if_true]
      omega
    | _ =>
      show decision.votesFor = _
      simpa using votesFor
  · rw [voted_card fresh]
    cases voteType with
    | against =>
      show satCount u32Max decision.votesAgainst 1 = _
      simp only [satCount, if_true]
      omega
    | «for» | abstain =>
      show decision.votesAgainst = _
      simpa using votesAgainst

theorem CommitteeDecision.voted_unexecuted (isOpen : decision.status = .voting) (members : Nat) :
    (decision.voted voter voteType members).status ≠ .executed := by
  have same : (decision.counted voter voteType).status = .voting := by
    cases voteType <;> exact isOpen
  show (decision.counted voter voteType).outcome members ≠ .executed
  simp only [outcome, same]
  split_ifs <;> exact DecisionStatus.noConfusion

variable {members : List Address}

theorem CommitteeDecision.card_ballots_le
    (voters : ∀ voter ∈ decision.votes.keys, voter ∈ members) :
    (decision.ballots .for).card + (decision.ballots .against).card ≤ members.length := by
  have apart : Disjoint (decision.ballots .for) (decision.ballots .against) := by
    rw [Finset.disjoint_left]
    intro voter first second
    rw [mem_ballots] at first second
    cases first.symm.trans second
  rw [← Finset.card_union_of_disjoint apart]
  refine le_trans (Finset.card_le_card fun voter inside => ?_) members.toFinset_card_le
  rw [mem_toFinset]
  rcases Finset.mem_union.mp inside with voted | voted
  · exact voters voter (List.mem_toFinset.mp (Finset.mem_filter.mp voted).1)
  · exact voters voter (List.mem_toFinset.mp (Finset.mem_filter.mp voted).1)

theorem CommitteeDecision.Tallied.realMajority (tallied : decision.Tallied)
    (isOpen : decision.status = .voting) (fresh : decision.votes.lookup voter = none)
    (mem : voter ∈ members) (voters : ∀ other ∈ decision.votes.keys, other ∈ members)
    (approved : (decision.voted voter voteType members.length).status = .approved) :
    (decision.voted voter voteType members.length).RealMajority members := by
  have counted : (decision.voted voter voteType members.length).Tallied :=
    tallied.vote fresh members.length
  have all : ∀ other ∈ (decision.voted voter voteType members.length).votes.keys,
      other ∈ members := by
    intro other listed
    rw [voted_votes] at listed
    rcases (mem_insert _).mp (AList.mem_keys.mpr listed) with rfl | prior
    · exact mem
    · exact voters other (AList.mem_keys.mp prior)
  have few := card_ballots_le all
  have votesFor := counted.votesFor
  have votesAgainst := counted.votesAgainst
  refine ⟨all, ?_⟩
  generalize (decision.voted voter voteType members.length).ballots .for = supporters at *
  generalize (decision.voted voter voteType members.length).ballots .against = opponents at *
  have settled : (decision.counted voter voteType).outcome members.length = .approved := approved
  have same : (decision.counted voter voteType).status = .voting := by
    cases voteType <;> exact isOpen
  change (decision.counted voter voteType).votesFor = _ at votesFor
  change (decision.counted voter voteType).votesAgainst = _ at votesAgainst
  simp only [outcome, same] at settled
  split at settled
  · omega
  · split at settled
    · cases settled
    · split at settled
      · split at settled
        · omega
        · cases settled
      · cases settled

end Votes

/-- A request lists committees once each, only these approve it, and it is approved exactly when
all of them have. -/
structure CrossCommitteeRequest.Sound (request : CrossCommitteeRequest) : Prop where
  nonempty : request.approvingCommittees ≠ []
  distinct : request.approvingCommittees.Nodup
  listed : ∀ committeeId ∈ request.approvals.keys, committeeId ∈ request.approvingCommittees
  approved : request.status = .approved ↔
    request.approvals.keys.length = request.approvingCommittees.length

theorem CrossCommitteeRequest.Sound.approve {request : CrossCommitteeRequest}
    (sound : request.Sound) {committeeId : Nat} (decisionId : Nat)
    (pending : request.status = .pending) (listed : committeeId ∈ request.approvingCommittees) :
    (request.approvedBy committeeId decisionId).Sound := by
  refine ⟨sound.nonempty, sound.distinct, fun other approves => ?_, ?_⟩
  · rcases (mem_insert _).mp (AList.mem_keys.mpr approves) with rfl | prior
    · exact listed
    · exact sound.listed other (AList.mem_keys.mp prior)
  · have same : (request.approvals.insert committeeId decisionId).entries.length =
        (request.approvals.insert committeeId decisionId).keys.length :=
      (length_map _).symm
    rw [CrossCommitteeRequest.approvedBy, same]
    dsimp only
    split
    next enough => exact iff_of_true rfl enough
    next few => exact iff_of_false (by rw [pending]; exact CrossCommitteeStatus.noConfusion) few

theorem CrossCommitteeRequest.Sound.exactly {request : CrossCommitteeRequest}
    (sound : request.Sound) : request.status = .approved ↔
      ∀ committeeId ∈ request.approvingCommittees,
        (request.approvals.lookup committeeId).isSome = true := by
  rw [sound.approved]
  have keys : request.approvals.keys.Nodup := request.approvals.keys_nodup
  have inside : request.approvals.keys ⊆ request.approvingCommittees := sound.listed
  constructor
  · intro enough committeeId listed
    have same := (keys.subperm inside).perm_of_length_le enough.ge
    exact AList.lookup_isSome.mpr (AList.mem_keys.mpr (same.mem_iff.mpr listed))
  · intro every
    refine le_antisymm (keys.subperm inside).length_le (sound.distinct.subperm ?_).length_le
    exact fun committeeId listed =>
      AList.mem_keys.mp (AList.lookup_isSome.mp (every committeeId listed))

namespace CommitteeTransition

/-- A vote that returns is cast while all who voted on the decision before are members, and a
request that returns lists no committee twice. -/
def Careful (taken : CommitteeTransition) : Prop :=
  taken.Returned →
    match taken.input.call with
    | .vote committeeId decisionId _ _ =>
      ∀ committee ∈ taken.pre.store.committees.committees.lookup committeeId,
        ∀ decision ∈ committee.decisions, decision.decisionId = decisionId →
          ∀ voter ∈ decision.votes.keys, voter ∈ committee.members
    | .request _ _ approvingCommittees _ => approvingCommittees.Nodup
    | _ => True

instance (taken : CommitteeTransition) : Decidable taken.Careful := by
  unfold Careful
  split <;> infer_instance

/-- After the step, a decision that is approved was approved before or has a real majority
among the members of now; one that is executed was approved or executed before; and
requests are approved exactly when every listed committee has approved them. -/
structure Decides (taken : CommitteeTransition) : Prop where
  approved : ∀ (committeeId : Nat) (committee : Committee) (index : Nat)
    (decision : CommitteeDecision),
    taken.after.store.committees.committees.lookup committeeId = some committee →
      committee.decisions[index]? = some decision → decision.status = .approved →
        (∃ (prior : Committee) (old : CommitteeDecision),
          taken.pre.store.committees.committees.lookup committeeId = some prior ∧
            prior.decisions[index]? = some old ∧ old.status = .approved) ∨
        decision.RealMajority committee.members
  executed : ∀ (committeeId : Nat) (committee : Committee) (index : Nat)
    (decision : CommitteeDecision),
    taken.after.store.committees.committees.lookup committeeId = some committee →
      committee.decisions[index]? = some decision → decision.status = .executed →
        ∃ (prior : Committee) (old : CommitteeDecision),
          taken.pre.store.committees.committees.lookup committeeId = some prior ∧
            prior.decisions[index]? = some old ∧
            (old.status = .approved ∨ old.status = .executed)
  requests : ∀ (requestId : Nat) (request : CrossCommitteeRequest),
    taken.after.store.committees.crossCommitteeRequests.lookup requestId = some request →
      (request.status = .approved ↔ ∀ committeeId ∈ request.approvingCommittees,
        (request.approvals.lookup committeeId).isSome = true)

end CommitteeTransition

/-- The counters of all decisions are right and all requests are sound. -/
structure CommitteesState.Sound (state : CommitteesState) : Prop where
  decisions : ∀ (committeeId : Nat) (committee : Committee),
    state.committees.lookup committeeId = some committee →
      ∀ decision ∈ committee.decisions, decision.Tallied
  requests : ∀ (requestId : Nat) (request : CrossCommitteeRequest),
    state.crossCommitteeRequests.lookup requestId = some request → request.Sound

section Steps

variable {pre after : CommitteesState} {taken : CommitteeTransition}

theorem DecisionsFollow.status {decisions later : List CommitteeDecision}
    (follows : DecisionsFollow decisions later) {index : Nat} {decision : CommitteeDecision}
    (hit : later[index]? = some decision) :
    decision.status = .voting ∨ decision.status = .overridden ∨
      ∃ old, decisions[index]? = some old ∧ (decision.status = old.status ∨
        old.status = .approved ∧ decision.status = .executed) := by
  rcases follows index decision hit with new | ⟨old, has, kept⟩
  · exact .inl new.voting
  · rcases kept.status with same | executed | overridden
    · exact .inr (.inr ⟨old, has, .inl same⟩)
    · exact .inr (.inr ⟨old, has, .inr executed⟩)
    · exact .inr (.inl overridden)

theorem CommitteesState.Sound.follow (sound : pre.Sound) (follows : CommitteesFollow pre after)
    (requests : after.crossCommitteeRequests = pre.crossCommitteeRequests ∨
      after.crossCommitteeRequests = ∅) : after.Sound := by
  refine ⟨fun committeeId committee has decision listed => ?_, fun requestId request has => ?_⟩
  · rcases follows committeeId committee has with none | ⟨old, prior, kept⟩
    · rw [none] at listed
      cases listed
    · obtain ⟨index, hit⟩ := mem_iff_getElem?.mp listed
      rcases kept index decision hit with new | ⟨decided, place, follows⟩
      · exact new.tallied
      · exact (sound.decisions committeeId old prior decided
          (mem_iff_getElem?.mpr ⟨index, place⟩)).follow follows
  · rcases requests with same | none
    · exact sound.requests requestId request (same ▸ has)
    · rw [none] at has
      cases has

theorem CommitteeTransition.Decides.follow
    (follows : CommitteesFollow taken.pre.store.committees taken.after.store.committees)
    (sound : taken.after.store.committees.Sound) : taken.Decides := by
  refine ⟨fun committeeId committee index decision has hit approved => ?_,
    fun committeeId committee index decision has hit executed => ?_,
    fun requestId request has => (sound.requests requestId request has).exactly⟩
  · rcases follows committeeId committee has with none | ⟨old, prior, kept⟩
    · rw [none] at hit
      cases hit
    · rcases kept.status hit with voting | overridden | ⟨decided, place, same | ⟨_, executed⟩⟩
      · cases approved.symm.trans voting
      · cases approved.symm.trans overridden
      · exact .inl ⟨old, decided, prior, place, same.symm.trans approved⟩
      · cases approved.symm.trans executed
  · rcases follows committeeId committee has with none | ⟨old, prior, kept⟩
    · rw [none] at hit
      cases hit
    · rcases kept.status hit with voting | overridden | ⟨decided, place, same | ⟨was, _⟩⟩
      · cases executed.symm.trans voting
      · cases executed.symm.trans overridden
      · exact ⟨old, decided, prior, place, .inr (same.symm.trans executed)⟩
      · exact ⟨old, decided, prior, place, .inl was⟩

/-- Only the committees or only the requests of a step matter to a law about them. -/
theorem CommitteesState.Sound.put_request (sound : pre.Sound) {requestId next : Nat}
    {request : CrossCommitteeRequest} (right : request.Sound) :
    ({ pre with
        crossCommitteeRequests := pre.crossCommitteeRequests.insert requestId request
        nextCrossReqId := next } : CommitteesState).Sound := by
  refine ⟨sound.decisions, fun other has hit => ?_⟩
  by_cases same : other = requestId
  · subst same
    cases Option.mem_unique (lookup_insert _) hit
    exact right
  · exact sound.requests other has ((lookup_insert_ne same).symm.trans hit)

end Steps

section Votes

variable {pre : CommitteesState} {committeeId index : Nat} {voter : Address}
  {voteType : VoteType} {committee : Committee} {decision : CommitteeDecision}

def CommitteesState.afterVote (pre : CommitteesState) (committeeId index : Nat)
    (committee : Committee) (decision : CommitteeDecision) : CommitteesState :=
  { pre with
    committees := pre.committees.insert committeeId (committee.setDecision index decision) }

theorem afterVote_found {written : CommitteeDecision}
    (has : pre.committees.lookup committeeId = some committee)
    {other place : Nat} {later : Committee} {listed : CommitteeDecision}
    (held : (pre.afterVote committeeId index committee written).committees.lookup other =
      some later) (hit : later.decisions[place]? = some listed) :
    (later.members = committee.members ∧ listed = written) ∨
      ∃ prior, pre.committees.lookup other = some prior ∧
        prior.decisions[place]? = some listed := by
  by_cases same : other = committeeId
  · subst same
    cases Option.mem_unique (lookup_insert _) held
    change (committee.decisions.set index written)[place]? = some listed at hit
    rw [List.getElem?_set] at hit
    split at hit
    · split at hit
      · exact .inl ⟨rfl, (Option.some.inj hit).symm⟩
      · cases hit
    · exact .inr ⟨committee, has, hit⟩
  · exact .inr ⟨later, (lookup_insert_ne same).symm.trans held, hit⟩

end Votes

/-- What a careful step leaves, and that it decides as it should. -/
theorem CommitteesState.Sound.step {ledger : Ledger CommitteeStore} {input : CommitteeInput}
    (sound : ledger.store.committees.Sound)
    (careful : CommitteeTransition.Careful ⟨ledger, input, committeeStep input ledger⟩) :
    (committeeStep input ledger).store.committees.Sound ∧
      CommitteeTransition.Decides ⟨ledger, input, committeeStep input ledger⟩ := by
  have quiet (follows : CommitteesFollow ledger.store.committees
        (committeeStep input ledger).store.committees)
      (right : (committeeStep input ledger).store.committees.Sound) :
      (committeeStep input ledger).store.committees.Sound ∧
        CommitteeTransition.Decides ⟨ledger, input, committeeStep input ledger⟩ :=
    ⟨right, .follow follows right⟩
  by_cases returns : Accepts (input.call.exec (ledger.env input.arrival)) ledger.store
  · obtain ⟨value, gave⟩ := gave_of_accepts returns
    have effect : CommitteeEffect ledger.store.committees input.call
      (committeeStep input ledger).store.committees :=
        wp_ok (input.call.exec_effect (ledger.env input.arrival)) gave
    have careful := careful returns
    generalize committeeStep input ledger = next at effect quiet careful ⊢
    generalize called : input.call = call at effect careful
    generalize written : next.store.committees = state at effect quiet ⊢
    cases effect with
    | quiet follows requests => exact quiet follows (sound.follow follows requests)
    | @vote committeeId decisionId index voter voteType committee decision has mem hit named
        isOpen fresh =>
      have listed : decision ∈ committee.decisions := mem_iff_getElem?.mpr ⟨index, hit⟩
      have tallied := sound.decisions committeeId committee has decision listed
      have voters := careful committee has decision listed named
      have right : (ledger.store.committees.afterVote committeeId index committee
          (decision.voted voter voteType committee.members.length)).Sound := by
        refine ⟨fun other later held voted inside => ?_, sound.requests⟩
        obtain ⟨place, located⟩ := mem_iff_getElem?.mp inside
        rcases afterVote_found has held located with ⟨_, rfl⟩ | ⟨prior, kept, same⟩
        · exact tallied.vote fresh _
        · exact sound.decisions other prior kept voted
            (mem_iff_getElem?.mpr ⟨place, same⟩)
      refine ⟨right, fun other later place voted held located approved => ?_,
        fun other later place voted held located executed => ?_, fun requestId request kept => ?_⟩
      · rw [written] at held
        rcases afterVote_found has held located with ⟨members, rfl⟩ | ⟨prior, kept, same⟩
        · rw [members]
          exact .inr (tallied.realMajority isOpen fresh mem voters approved)
        · exact .inl ⟨prior, voted, kept, same, approved⟩
      · rw [written] at held
        rcases afterVote_found has held located with ⟨_, rfl⟩ | ⟨prior, kept, same⟩
        · exact absurd executed (voted_unexecuted isOpen _)
        · exact ⟨prior, voted, kept, same, .inr executed⟩
      · rw [written] at kept
        exact (right.requests requestId request kept).exactly
    | @request requesting requester approvingCommittees proposal nonempty =>
      refine quiet (.of_same rfl) (sound.put_request ⟨nonempty, careful, fun _ inside =>
        (by cases inside), ?_⟩)
      refine iff_of_false CrossCommitteeStatus.noConfusion fun none => nonempty ?_
      exact eq_nil_of_length_eq_zero none.symm
    | approve has pending listed fresh =>
      exact quiet (.of_same rfl) (sound.put_request
        ((sound.requests _ _ has).approve _ pending listed))
  · have same : (committeeStep input ledger).store = ledger.store :=
      invoke_of_rejected returns
    exact quiet (by rw [same]; exact .of_same rfl) (by rw [same]; exact sound)

/-- In every run whose votes and requests are careful, every step decides as it should: by a
real majority of the members of that moment, and by all committees listed. -/
theorem decisions_decided (timestamp sequence : Nat) (inputs : List CommitteeInput) :
    let taken := trace committeeStep (committeeStart timestamp sequence) inputs
    (∀ step ∈ taken, CommitteeTransition.Careful step) →
      ∀ step ∈ taken, CommitteeTransition.Decides step := by
  intro taken careful
  have kept := history_invariant committeeStep
    (fun past ledger => ledger.store.committees.Sound ∧
      ∀ step ∈ past, CommitteeTransition.Decides step)
    (fun ledger input => CommitteeTransition.Careful ⟨ledger, input, committeeStep input ledger⟩)
    (fun past ledger input guard kept => ?_) (committeeStart timestamp sequence)
    ⟨⟨fun _ _ has => (by cases has), fun _ _ has => (by cases has)⟩,
      fun _ inside => (by cases inside)⟩ inputs careful
  · exact kept.2
  · obtain ⟨sound, decides⟩ := kept.1.step guard
    refine ⟨sound, fun step inside => ?_⟩
    rcases mem_snoc.mp inside with prior | rfl
    · exact kept.2 step prior
    · exact decides

/-- A committee of three, formed by the first admin, in which one member proposes a decision and
votes for it. -/
def proposedDecision : List CommitteeInput :=
  [⟨⟨1, 1, [1]⟩, .other (.initializeContract 1 "Governance" "GOV" ⟨30000, by decide⟩
      ⟨2, 3, 4, 5, 6⟩)⟩,
    ⟨⟨1, 1, [1]⟩, .create .direct 1 "Grants" "Grants" [20, 21, 22] 20 3
      [.emergencyAction ["pause"]] none⟩,
    ⟨⟨1, 1, [20]⟩, .propose 1 20 "Pause" (.emergencyAction "pause" "now")⟩,
    ⟨⟨1, 1, [20]⟩, .vote 1 1 20 .for⟩]

def replacedMembers : List CommitteeInput :=
  [⟨⟨1, 1, [4]⟩, .other (.governance (.governance (.power (.stake 4 ⟨40, by decide⟩))))⟩,
    ⟨⟨1, 1, [1]⟩, .startElection 1 1 3 1 1 ⟨37, by decide⟩⟩,
    ⟨⟨1, 1, [30, 4]⟩, .nominate 1 30 4⟩, ⟨⟨1, 1, [31, 4]⟩, .nominate 1 31 4⟩,
    ⟨⟨1, 1, [32, 4]⟩, .nominate 1 32 4⟩, ⟨⟨1, 1, [4]⟩, .voteInElection 1 4 30⟩,
    ⟨⟨86401, 1, [1]⟩, .finalizeElection 1 1⟩]

theorem last_taken (front : List CommitteeInput) (input : CommitteeInput) :
    ∃ step ∈ trace committeeStep (committeeStart 0 0) (front ++ [input]),
      step.pre = final committeeStep (committeeStart 0 0) front ∧
        step.after = final committeeStep (committeeStart 0 0) (front ++ [input]) := by
  rw [transitions_concat, final_append]
  exact ⟨_, mem_append_right _ mem_cons_self, rfl, rfl⟩

/-- One new member approves the decision with the vote of one who left. -/
theorem departed_member_decides :
    ¬ ∀ inputs, ∀ step ∈ trace committeeStep (committeeStart 0 0) inputs,
      CommitteeTransition.Decides step := by
  intro every
  have decided : ∃ committee ∈ (final committeeStep (committeeStart 0 0)
      (proposedDecision ++ replacedMembers ++
        [⟨⟨1, 1, [30]⟩, .vote 1 1 30 .for⟩])).store.committees.committees.lookup 1,
      ∃ decision ∈ committee.decisions[0]?, decision.status = .approved ∧
        20 ∈ decision.votes.keys ∧ 20 ∉ committee.members := by decide +kernel
  have voting : ∀ committee ∈ (final committeeStep (committeeStart 0 0)
      (proposedDecision ++ replacedMembers)).store.committees.committees.lookup 1,
      ∀ decision ∈ committee.decisions[0]?, decision.status ≠ .approved := by decide +kernel
  obtain ⟨step, inside, pre, after⟩ := last_taken (proposedDecision ++ replacedMembers)
    ⟨⟨1, 1, [30]⟩, .vote 1 1 30 .for⟩
  rw [← pre] at voting
  rw [← after] at decided
  obtain ⟨committee, has, decision, hit, approved, voted, left⟩ := decided
  rcases (every _ step inside).approved 1 committee 0 decision has hit approved with
    ⟨prior, old, held, place, was⟩ | real
  · exact voting prior held old place was
  · exact left (real.voters 20 voted)

/-- Two of three members approve the decision. -/
theorem two_members_decide : ∀ step ∈ trace committeeStep (committeeStart 0 0)
      (proposedDecision ++ [⟨⟨1, 1, [21]⟩, .vote 1 1 21 .for⟩,
        ⟨⟨1, 1, [22]⟩, .execute 1 1 22⟩]), CommitteeTransition.Decides step :=
  decisions_decided 0 0 _ (by decide)

end StellarSwipe.Committees
