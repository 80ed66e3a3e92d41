import StellarSwipe.Committees.Contract
import StellarSwipe.Library.Frames

/-!
# What calls do to committees

A vote counts towards one decision and may settle it.
-/

namespace StellarSwipe.Committees

open FixedWidth Program Governance Authority Runs

/-- A decision without votes. -/
structure CommitteeDecision.IsNew (decision : CommitteeDecision) : Prop where
  voting : decision.status = .voting
  votes : decision.votes = ∅
  votesFor : decision.votesFor = 0
  votesAgainst : decision.votesAgainst = 0

/-- The same votes, and a status that does not come from them. -/
structure CommitteeDecision.Follows (old decision : CommitteeDecision) : Prop where
  votes : decision.votes = old.votes
  votesFor : decision.votesFor = old.votesFor
  votesAgainst : decision.votesAgainst = old.votesAgainst
  status : decision.status = old.status ∨ (old.status = .approved ∧ decision.status = .executed) ∨
    decision.status = .overridden

theorem CommitteeDecision.Follows.refl (decision : CommitteeDecision) :
    decision.Follows decision := ⟨rfl, rfl, rfl, .inl rfl⟩

/-- Every decision at its place is new or follows the one that was there. -/
def DecisionsFollow (pre after : List CommitteeDecision) : Prop :=
  ∀ (index : Nat) (decision : CommitteeDecision), after[index]? = some decision →
    decision.IsNew ∨ ∃ old : CommitteeDecision, pre[index]? = some old ∧ old.Follows decision

theorem DecisionsFollow.refl (decisions : List CommitteeDecision) :
    DecisionsFollow decisions decisions :=
  fun _ decision hit => .inr ⟨decision, hit, .refl decision⟩

variable {decisions : List CommitteeDecision}

theorem DecisionsFollow.set {index : Nat} {old decision : CommitteeDecision}
    (hit : decisions[index]? = some old) (follows : old.Follows decision) :
    DecisionsFollow decisions (decisions.set index decision) := by
  intro place other listed
  rw [List.getElem?_set] at listed
  split at listed
  next same =>
    subst same
    split at listed
    · cases listed
      exact .inr ⟨old, hit, follows⟩
    · cases listed
  next => exact .inr ⟨other, listed, .refl other⟩

theorem DecisionsFollow.concat {decision : CommitteeDecision} (new : decision.IsNew) :
    DecisionsFollow decisions (decisions ++ [decision]) := by
  intro place other listed
  rw [List.getElem?_append] at listed
  split at listed
  next => exact .inr ⟨other, listed, .refl other⟩
  next =>
    obtain ⟨_, rfl⟩ := List.getElem?_eq_some_iff.mp listed
    rw [List.getElem_singleton]
    exact .inl new

/-- The decisions of every committee follow those it had. -/
def CommitteesFollow (pre after : CommitteesState) : Prop :=
  ∀ (committeeId : Nat) (committee : Committee),
    after.committees.lookup committeeId = some committee → committee.decisions = [] ∨
      ∃ old : Committee, pre.committees.lookup committeeId = some old ∧
        DecisionsFollow old.decisions committee.decisions

theorem CommitteesFollow.of_same {pre after : CommitteesState}
    (same : after.committees = pre.committees) : CommitteesFollow pre after :=
  fun _ committee has => .inr ⟨committee, same ▸ has, .refl _⟩

theorem CommitteesFollow.of_insert {pre after : CommitteesState} {committeeId : Nat}
    {committee : Committee}
    (written : after.committees = pre.committees.insert committeeId committee)
    (follows : committee.decisions = [] ∨ ∃ old, pre.committees.lookup committeeId = some old ∧
      DecisionsFollow old.decisions committee.decisions) : CommitteesFollow pre after := by
  intro other has hit
  rw [written] at hit
  by_cases same : other = committeeId
  · subst same
    obtain rfl := Option.some.inj ((AList.lookup_insert _).symm.trans hit)
    exact follows
  · rw [AList.lookup_insert_ne same] at hit
    exact .inr ⟨has, hit, .refl _⟩

/-- A decision with one more vote, as it then stands among so many members. -/
def CommitteeDecision.voted (decision : CommitteeDecision) (voter : Address)
    (voteType : VoteType) (members : Nat) : CommitteeDecision :=
  let counted := decision.counted voter voteType
  { counted with status := counted.outcome members }

/-- What a returning call does to the committees. -/
inductive CommitteeEffect (pre : CommitteesState) : CommitteeCall → CommitteesState → Prop where
  | quiet {call : CommitteeCall} {after : CommitteesState} (follows : CommitteesFollow pre after)
      (requests : after.crossCommitteeRequests = pre.crossCommitteeRequests ∨
        after.crossCommitteeRequests = ∅) : CommitteeEffect pre call after
  | vote {committeeId decisionId index : Nat} {voter : Address} {voteType : VoteType}
      {committee : Committee} {decision : CommitteeDecision}
      (has : pre.committees.lookup committeeId = some committee)
      (mem : voter ∈ committee.members)
      (hit : committee.decisions[index]? = some decision)
      (named : decision.decisionId = decisionId) (isOpen : decision.status = .voting)
      (fresh : decision.votes.lookup voter = none) :
      CommitteeEffect pre (.vote committeeId decisionId voter voteType)
        { pre with
          committees := pre.committees.insert committeeId
            (committee.setDecision index
              (decision.voted voter voteType committee.members.length)) }
  | request {requestingCommittee : Nat} {requester : Address} {approvingCommittees : List Nat}
      {proposal : String} (listed : approvingCommittees ≠ []) :
      CommitteeEffect pre (.request requestingCommittee requester approvingCommittees proposal)
        { pre with
          crossCommitteeRequests := pre.crossCommitteeRequests.insert pre.nextCrossReqId
            ⟨requestingCommittee, approvingCommittees, proposal, ∅, .pending⟩
          nextCrossReqId := satCount u64Max pre.nextCrossReqId 1 }
  | approve {requestId approvingCommittee decisionId : Nat} {approver : Address}
      {request : CrossCommitteeRequest}
      (has : pre.crossCommitteeRequests.lookup requestId = some request)
      (pending : request.status = .pending)
      (listed : approvingCommittee ∈ request.approvingCommittees)
      (fresh : request.approvals.lookup approvingCommittee = none) :
      CommitteeEffect pre (.approveRequest requestId approvingCommittee approver decisionId)
        { pre with
          crossCommitteeRequests := pre.crossCommitteeRequests.insert requestId
            (request.approvedBy approvingCommittee decisionId) }

section Rules

variable {pre : CommitteeStore}

/-- What follows a program on the rest of the contract may rely on the committees. -/
theorem wp_onAuthority {α : Type} {program : AuthorityProgram α} {post : α → CommitteeStore → Prop}
    (holds : ∀ value authority, post value { pre with authority }) :
    wp (onAuthority program) post (fun _ _ => True) pre := by
  rw [onAuthority, wp_zoom]
  refine (wp_iff _).mpr ⟨fun value after _ => holds value after, fun reason after _ => ?_⟩
  cases reason <;> trivial

variable {post : Unit → CommitteeStore → Prop}

theorem wp_enter {env : Env} {caller : Address}
    (holds : ∀ authority, post () { pre with authority }) :
    wp (enter env caller) post (fun _ _ => True) pre := by
  rw [enter, wp_bind]
  exact wp_onAuthority fun _ _ => wp_onAuthority fun _ authority => holds authority

variable {committee : Committee}

theorem wp_ensureCommitteeActive {now : Nat} (holds : post () pre) :
    wp (ensureCommitteeActive committee now) post (fun _ _ => True) pre := by
  simp only [ensureCommitteeActive, wlp_rules]
  exact fun _ _ => holds

theorem wp_getCommittee {committeeId : Nat} {post : Committee → CommitteeStore → Prop} :
    wp (getCommittee committeeId) post (fun _ _ => True) pre ↔
      ∀ committee, pre.committees.committees.lookup committeeId = some committee →
        post committee pre := by
  simp [getCommittee]

theorem wp_getElection {committeeId : Nat} {post : CommitteeElection → CommitteeStore → Prop} :
    wp (getElection committeeId) post (fun _ _ => True) pre ↔
      ∀ election, pre.committees.elections.lookup committeeId = some election →
        post election pre := by
  simp [getElection]

theorem wp_findDecision {decisionId : Nat} {post : Nat × CommitteeDecision → CommitteeStore → Prop}
    (holds : ∀ index decision, committee.decisions[index]? = some decision →
      decision.decisionId = decisionId → post (index, decision) pre) :
    wp (findDecision committee decisionId) post (fun _ _ => True) pre := by
  simp only [findDecision, wlp_rules]
  intro index located decision hit
  obtain ⟨inside, named, _⟩ := List.findIdx?_eq_some_iff_getElem.mp located
  refine holds index decision hit ?_
  obtain ⟨_, rfl⟩ := List.getElem?_eq_some_iff.mp hit
  exact of_decide_eq_true named

end Rules

section Calls

variable {pre : CommitteeStore} {call : CommitteeCall}

theorem CommitteeEffect.put {state : CommitteesState} {committeeId : Nat}
    {old committee : Committee} (has : state.committees.lookup committeeId = some old)
    (follows : DecisionsFollow old.decisions committee.decisions) {after : CommitteesState}
    (written : after.committees = state.committees.insert committeeId committee)
    (requests : after.crossCommitteeRequests = state.crossCommitteeRequests) :
    CommitteeEffect state call after :=
  .quiet (.of_insert written (.inr ⟨old, has, follows⟩)) (.inl requests)

theorem CommitteeEffect.elect {state after : CommitteesState}
    (committees : after.committees = state.committees)
    (requests : after.crossCommitteeRequests = state.crossCommitteeRequests) :
    CommitteeEffect state call after :=
  .quiet (.of_same committees) (.inl requests)

theorem executeDecisionAction_leaves (action : CommitteeAction) (executedAt : Nat) :
    Leaves CommitteeStore.committees (executeDecisionAction action executedAt) := by
  cases action with
  | treasurySpend | grantApproval | rewardConfigUpdate => exact leaves_zoom _ fun _ _ => rfl
  | _ => exact leaves_ensure _ _

theorem executeDecision_effect (env : Env) (committeeId decisionId : Nat) (executor : Address) :
    wp (executeDecision env committeeId decisionId executor)
      (fun _ after => CommitteeEffect pre.committees call after.committees) (fun _ _ => True)
      pre := by
  rw [executeDecision, wp_bind, wp_getCommittee]
  intro committee has
  refine (wp_bind _ _).mpr (wp_ensureCommitteeActive ?_)
  rw [wp_bind, wp_ensure]
  refine ⟨fun _ => (wp_bind _ _).mpr (wp_findDecision fun index decision hit _ => ?_),
    fun _ => trivial⟩
  simp only [wlp_rules]
  intro approved _ _
  refine wp_then (executeDecisionAction_leaves _ _ pre) (fun _ middle same => ?_)
  intro metrics _
  obtain ⟨authority, committees⟩ := middle
  obtain rfl : committees = pre.committees := same
  refine .put has ?_ rfl rfl
  exact .set hit ⟨rfl, rfl, rfl, .inr (.inl ⟨approved, rfl⟩)⟩

theorem finalizeElection_effect (env : Env) (committeeId : Nat) :
    wp (finalizeElection env committeeId)
      (fun _ after => CommitteeEffect pre.committees call after.committees) (fun _ _ => True)
      pre := by
  rw [finalizeElection, wp_bind, wp_getElection]
  intro election _
  simp only [wlp_rules]
  intro _
  refine wp_onAuthority fun tally authority => ?_
  rw [wp_ite]
  refine ⟨fun _ => .elect rfl rfl, fun _ => ?_⟩
  rw [wp_bind, wp_getCommittee]
  intro committee has
  simp only [wlp_rules]
  intro chair _
  refine .put has ?_ rfl rfl
  exact .refl _

theorem CommitteeCall.exec_effect (call : CommitteeCall) (env : Env) :
    wp (call.exec env) (fun _ after => CommitteeEffect pre.committees call after.committees)
      (fun _ _ => True) pre := by
  cases call with
  | create route admin name description initialMembers chair maxMembers authorities days =>
    refine (wp_bind _ _).mpr (wp_onAuthority fun _ authority => ?_)
    simp only [createCommittee, wp_bind, wp_ensure, implies_true, and_true]
    intro _ _ _ _ _ _
    exact .quiet (.of_insert rfl (.inl rfl)) (.inl rfl)
  | propose committeeId proposer proposal action =>
    refine (wp_bind _ _).mpr (wp_enter fun authority => ?_)
    simp only [proposeDecision, wp_bind, wp_ensure, wp_getCommittee, implies_true, and_true]
    intro _ committee has
    refine wp_ensureCommitteeActive ?_
    simp only [wp_get]
    intro _
    refine .put has ?_ rfl rfl
    exact .concat ⟨rfl, rfl, rfl, rfl⟩
  | vote committeeId decisionId voter voteType =>
    refine (wp_bind _ _).mpr (wp_enter fun authority => ?_)
    simp only [voteOnDecision, wp_bind, wp_ensure, wp_getCommittee, implies_true, and_true]
    intro committee has mem
    refine wp_findDecision fun index decision hit named => ?_
    intro isOpen fresh
    exact .vote has mem hit named isOpen fresh
  | execute committeeId decisionId executor =>
    refine (wp_bind _ _).mpr (wp_enter fun authority => ?_)
    exact executeDecision_effect env committeeId decisionId executor
  | startElection admin committeeId positions days participation threshold =>
    refine (wp_bind _ _).mpr (wp_onAuthority fun _ authority => ?_)
    simp only [Committees.startElection, wp_bind, wp_getCommittee]
    intro committee _
    refine wp_ensureCommitteeActive ?_
    simp only [wp_get, wp_ensure, implies_true, and_true]
    intro _ _ _
    exact .elect rfl rfl
  | nominate committeeId nominee nominator =>
    refine (wp_bind _ _).mpr (wp_enter fun _ => ?_)
    refine (wp_bind _ _).mpr (wp_onAuthority fun _ authority => ?_)
    simp only [Committees.nominate, wp_bind, wp_getElection, wp_get, wp_ensure, implies_true,
      and_true]
    intro _ _ _ _
    exact .elect rfl rfl
  | voteInElection committeeId voter candidate =>
    refine (wp_bind _ _).mpr (wp_enter fun authority => ?_)
    simp only [Committees.voteInElection, wp_bind, wp_getElection, wp_get, wp_ensure, implies_true,
      and_true]
    intro _ _ _ _ _ _
    exact .elect rfl rfl
  | finalizeElection admin committeeId =>
    refine (wp_bind _ _).mpr (wp_onAuthority fun _ authority => ?_)
    exact finalizeElection_effect env committeeId
  | setApprovalRating admin committeeId rating =>
    refine (wp_bind _ _).mpr (wp_onAuthority fun _ authority => ?_)
    simp only [setCommunityApprovalRating, wp_bind, wp_ensure, wp_getCommittee, implies_true,
      and_true]
    intro _ committee has
    refine .put has ?_ rfl rfl
    exact .refl _
  | override route admin committeeId decisionId =>
    refine (wp_bind _ _).mpr (wp_onAuthority fun _ authority => ?_)
    simp only [overrideDecision, wp_bind, wp_getCommittee]
    intro committee has
    refine wp_findDecision fun index decision hit _ => ?_
    simp only [wp_ensure, implies_true, and_true]
    intro _
    refine .put has ?_ rfl rfl
    exact .set hit ⟨rfl, rfl, rfl, .inr (.inr rfl)⟩
  | dissolve route admin committeeId =>
    refine (wp_bind _ _).mpr (wp_onAuthority fun _ authority => ?_)
    simp only [dissolveCommittee, wp_bind, wp_getCommittee, wp_ensure, implies_true, and_true]
    intro committee has _
    refine .put has ?_ rfl rfl
    exact .refl _
  | request requestingCommittee requester approvingCommittees proposal =>
    refine (wp_bind _ _).mpr (wp_enter fun authority => ?_)
    simp only [requestCrossCommitteeApproval, wp_bind, wp_ensure, wp_getCommittee, implies_true,
      and_true]
    intro complete committee _
    refine wp_ensureCommitteeActive ?_
    simp only [wp_get]
    intro _ _
    exact .request fun none => complete (.inr none)
  | approveRequest requestId approvingCommittee approver decisionId =>
    refine (wp_bind _ _).mpr (wp_enter fun authority => ?_)
    simp only [approveCrossCommitteeRequest, wp_bind, wp_get, wp_orFail, wp_ensure, wp_getCommittee,
      implies_true, and_true]
    intro request has admitted fresh committee _ _
    refine wp_findDecision fun index decision _ _ => ?_
    intro _
    refine .approve has ?_ ?_ fresh
    · exact not_not.mp fun different => admitted (.inl different)
    · exact not_not.mp fun unlisted => admitted (.inr unlisted)
  | other call =>
    refine (wp_bind _ _).mpr (wp_onAuthority fun _ authority => ?_)
    split
    · exact .quiet (fun _ _ has => (by cases has)) (.inr rfl)
    · exact .elect rfl rfl

end Calls

end StellarSwipe.Committees
