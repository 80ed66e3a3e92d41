import StellarSwipe.Governance.ProposalEffects

/-!
# What calls on quadratic votes write

A ballot writes the voter's credits, a tally of the proposal and the ballot itself.
-/

namespace StellarSwipe.Governance

open FixedWidth Program DistinctList

namespace VoteCredits

variable (credits : VoteCredits) (proposalId : Nat) (cost : Int)

def spent : VoteCredits :=
  { credits with
    usedCredits := credits.usedCredits + cost
    availableCredits := credits.availableCredits - cost
    proposalsVoted := credits.proposalsVoted.insert proposalId cost }

def released : VoteCredits :=
  { credits with
    usedCredits := credits.usedCredits - cost
    availableCredits := credits.availableCredits + cost
    proposalsVoted := credits.proposalsVoted.erase proposalId }

/-- Credits with half of their total added. -/
def raised : VoteCredits :=
  { credits with
    totalCredits := credits.totalCredits + credits.totalCredits.tdiv 2
    availableCredits := credits.availableCredits + credits.totalCredits.tdiv 2 }

end VoteCredits

def Proposal.withBallot (proposal : Proposal) (voteType : VoteType) (change : Int → Int) :
    Proposal :=
  { proposal.tallied voteType change with status := proposal.activated }

/-- What a ballot that is cast writes. -/
inductive BallotCast (env : Env) (pre : GovStore) (proposalId : Nat) (voter : Address)
    (votes : Int) (voteType : VoteType) : GovStore → Prop where
  | intro {proposal : Proposal} {credits : VoteCredits}
      (has : pre.proposal proposalId = some proposal) (isOpen : proposal.IsOpen)
      (fresh : pre.quadratic.ballots.lookup (proposalId, voter) = none)
      (credited : pre.quadratic.credits.lookup voter = some credits)
      (pos : 0 < votes) (affordable : votes * votes ≤ credits.availableCredits) :
      BallotCast env pre proposalId voter votes voteType
        ((pre.putProposal proposalId
            (proposal.withBallot voteType fun tally => i128.saturatingAdd tally votes)).putQuadratic
          ((pre.quadratic.putCredits voter
            (credits.spent proposalId (votes * votes))).storeBallot proposalId voter
              ⟨votes, votes * votes, voteType⟩))

/-- The storage with a voter's ballot taken back. -/
def GovStore.takeBack (store : GovStore) (proposalId : Nat) (voter : Address)
    (proposal : Proposal) (previous : QuadraticVote) (credits : VoteCredits) : GovStore :=
  (store.putProposal proposalId (proposal.tallied previous.voteType fun tally =>
      i128.saturatingSub tally previous.votesAllocated)).putQuadratic
    ((store.quadratic.putCredits voter
      (credits.released proposalId previous.creditsSpent)).removeBallot proposalId voter)

theorem GovStore.proposal_takeBack (store : GovStore) (proposalId : Nat)
    (voter : Address) (proposal : Proposal) (previous : QuadraticVote) (credits : VoteCredits)
    (other : Nat) : (store.takeBack proposalId voter proposal previous credits).proposal other =
      if other = proposalId then some (proposal.tallied previous.voteType fun tally =>
        i128.saturatingSub tally previous.votesAllocated) else store.proposal other :=
  Table.lookup_insert _ _ _ _

/-- What a returning call on quadratic votes writes. -/
inductive QuadraticEffect (env : Env) (pre : GovStore) :
    QuadraticCall → GovStore → Prop where
  | configure (config : QuadraticVotingConfig) :
      QuadraticEffect env pre (.configure config)
        (pre.putQuadratic { pre.quadratic with config := some config })
  | allocate {user : Address} {capped : Int}
      (allowed : capped = min
        ((getEffectiveVotingPower pre env.sequence user *
          pre.quadratic.votingConfig.voteCreditsPerToken).tdiv creditPrecision)
        pre.quadratic.votingConfig.maxCreditsPerUser) :
      QuadraticEffect env pre (.allocate user)
        (pre.putQuadratic (pre.quadratic.putCredits user ⟨capped, 0, capped, ∅⟩))
  | verify {user : Address} (method : VerificationMethod)
      (identities : Table Address IdentityVerification)
      (uncredited : pre.quadratic.credits.lookup user = none) :
      QuadraticEffect env pre (.verify user method)
        (pre.putQuadratic { pre.quadratic with identities })
  | verifyWithBonus {user : Address} (method : VerificationMethod)
      (identities : Table Address IdentityVerification) {credits : VoteCredits}
      (credited : pre.quadratic.credits.lookup user = some credits) :
      QuadraticEffect env pre (.verify user method)
        (pre.putQuadratic
          (({ pre.quadratic with identities } : QuadraticState).putCredits user
            credits.raised))
  | cast {proposalId : Nat} {voter : Address} {votesDesired : Amount} {voteType : VoteType}
      {after : GovStore}
      (cast : BallotCast env pre proposalId voter votesDesired voteType after) :
      QuadraticEffect env pre (.cast proposalId voter votesDesired voteType) after
  | reallocate {proposalId : Nat} {voter : Address} {newVotesDesired : Amount}
      {voteType : VoteType} {proposal : Proposal} {previous : QuadraticVote}
      {credits : VoteCredits} {after : GovStore}
      (has : pre.proposal proposalId = some proposal)
      (recorded : pre.quadratic.ballots.lookup (proposalId, voter) = some previous)
      (credited : pre.quadratic.credits.lookup voter = some credits)
      (cast : BallotCast env (pre.takeBack proposalId voter proposal previous credits)
        proposalId voter newVotesDesired voteType after) :
      QuadraticEffect env pre (.reallocate proposalId voter newVotesDesired voteType) after
  | refund {proposalId : Nat} {proposal : Proposal}
      (has : pre.proposal proposalId = some proposal)
      (closed : proposal.status = .failed ∨ proposal.status = .cancelled)
      (credits : Table Address VoteCredits) :
      QuadraticEffect env pre (.refund proposalId)
        (pre.putQuadratic { pre.quadratic with credits })

section Quadratic

variable {pre : GovStore}

theorem BallotCast.written {env : Env} {proposalId : Nat} {voter : Address} {votes : Int}
    {voteType : VoteType} {after : GovStore}
    (cast : BallotCast env pre proposalId voter votes voteType after) :
    ∃ proposal, pre.proposal proposalId = some proposal ∧ proposal.IsOpen ∧
      ∀ other, after.proposal other = if other = proposalId then
        some (proposal.withBallot voteType fun tally => i128.saturatingAdd tally votes)
      else pre.proposal other := by
  obtain ⟨has, isOpen, fresh, credited, pos, affordable⟩ := cast
  exact ⟨_, has, isOpen, fun other => GovStore.proposal_putProposal _ _ _ _⟩

variable {post : VoteCredits → GovStore → Prop}

theorem wp_spend (credits : VoteCredits) (proposalId : Nat) (cost : Int) :
    wp (credits.spend proposalId cost) post (fun _ _ => True) pre ↔
      (i128.Holds (credits.usedCredits + cost) → i128.Holds (credits.availableCredits - cost) →
        post (credits.spent proposalId cost) pre) := by
  simp only [VoteCredits.spend, wp_rules, wp_raw]
  exact Iff.rfl

theorem wp_release (credits : VoteCredits) (proposalId : Nat) (cost : Int) :
    wp (credits.release proposalId cost) post (fun _ _ => True) pre ↔
      (i128.Holds (credits.usedCredits - cost) → i128.Holds (credits.availableCredits + cost) →
        post (credits.released proposalId cost) pre) := by
  simp only [VoteCredits.release, wp_rules, wp_raw]
  exact Iff.rfl

theorem castQuadraticVote_spec (env : Env) (proposalId : Nat) (voter : Address) (votes : Int)
    (voteType : VoteType) : wlp (castQuadraticVote env proposalId voter votes voteType)
      (fun _ after => BallotCast env pre proposalId voter votes voteType after) pre := by
  simp only [castQuadraticVote, wlp_rules, wp_auth, wp_getProposal, wp_spend,
    wp_putQuadratic, wp_putProposal]
  intro _ pos _ _ proposal has _ _ isOpen fresh cost multiplied credits credited affordable
    _ _ _
  obtain ⟨_, rfl⟩ := checkedMul_ok multiplied
  exact .intro has isOpen fresh credited (not_le.mp pos) (not_lt.mp affordable)

theorem refundVoter_leaves (proposalId : Nat) (voter : Address) :
    wlp (refundVoter proposalId voter) (fun _ after => ∃ credits,
      after = pre.putQuadratic { pre.quadratic with credits }) pre := by
  have same : ∃ credits, pre =
      pre.putQuadratic { pre.quadratic with credits } :=
    ⟨pre.quadratic.credits, rfl⟩
  simp only [refundVoter, wp_rules]
  cases pre.quadratic.ballots.lookup (proposalId, voter) with
  | none => exact same
  | some ballot =>
    simp only [wp_rules]
    cases pre.quadratic.credits.lookup voter with
    | none => exact same
    | some credits =>
      simp only [wp_rules, wp_release, wp_putQuadratic]
      intro _ _
      exact ⟨_, rfl⟩

theorem QuadraticCall.exec_effect (call : QuadraticCall) (env : Env) :
    wlp (call.exec env) (fun _ after => QuadraticEffect env pre call after) pre := by
  cases call with
  | configure config => exact .configure config
  | allocate user =>
    simp only [exec, allocateVoteCredits, wlp_rules, wp_raw, wp_putQuadratic]
    intro _ _
    exact .allocate rfl
  | verify user method =>
    simp only [exec, verifyIdentity, grantVerifiedUserBonus, wp_rules, wp_putQuadratic,
      GovStore.putQuadratic]
    cases credited : pre.quadratic.credits.lookup user with
    | none => exact .verify method _ credited
    | some credits =>
      simp only [wp_rules, wp_raw, wp_putQuadratic]
      intro _ _
      exact .verifyWithBonus method _ credited
  | cast proposalId voter votesDesired voteType =>
    exact wp_then (castQuadraticVote_spec env proposalId voter votesDesired voteType)
      (fun _ _ cast => .cast cast)
  | reallocate proposalId voter newVotesDesired voteType =>
    simp only [exec, reallocateQuadraticVotes, wlp_rules, wp_auth, wp_getProposal,
      wp_release, wp_putQuadratic, wp_putProposal]
    intro _ proposal has _ previous recorded credits credited _ _ _
    exact wp_then (castQuadraticVote_spec env proposalId voter newVotesDesired voteType)
      (fun _ _ cast => .reallocate has recorded credited cast)
  | refund proposalId =>
    simp only [exec, refundCreditsOnFailure, wlp_rules, wp_getProposal]
    intro proposal has closed
    have refunded : wlp (each (refundVoter proposalId) (pre.quadratic.votersOf proposalId))
        (fun _ after => ∃ credits,
          after = pre.putQuadratic { pre.quadratic with credits }) pre := by
      refine each_rule (fun _ after => ∃ credits,
        after = pre.putQuadratic { pre.quadratic with credits })
        (pre.quadratic.votersOf proposalId) [] ?_ pre ⟨pre.quadratic.credits, rfl⟩
      rintro _ voter middle _ ⟨credits, rfl⟩
      exact refundVoter_leaves proposalId voter
    refine wp_then refunded ?_
    rintro _ after ⟨credits, rfl⟩
    exact .refund has closed credits

end Quadratic

end StellarSwipe.Governance
