/-
Several hosts provision segments of one drive at the same time, each with an admin key of its own.

The first call that takes ownership decides: whoever holds its key gets a segment, everybody else is refused, and no
order of the calls makes anything in between of it. What each host relies on, and what it keeps to for the others, is
`Provision.LeavesAlone`.
-/
import Mathlib.Data.List.Basic
import OpalLocking.Proofs.Simulator.Contention

namespace OpalLocking

open Simulator

variable {p q : Provision} {c : Config} {d d' : SimulatedDrive} {request : Request}

/-! ## The first owner -/

/-- The key with which a call claims the drive. -/
def Request.claim? : Request → Option Secret
  | .takeOwnership key => some key.content
  | _ => none

/-- The key of the first call that claims the drive. -/
def firstClaim? (requests : List Request) : Option Secret :=
  requests.findSome? Request.claim?

/-- The first claim stands: the drive accepts it, and no later one makes a difference. -/
theorem SimulatedDrive.Idle.owner_answer {segment : UInt32} (idle : d.Idle) (confined : request.Confined segment)
    (valid : checkSegment segment = .ok ()) :
    (d.answer request).2.vault.owner = d.vault.owner.or request.claim? := by
  obtain ⟨v, behind, settles⟩ := idle.settles request
  cases claim : request.claim? with
  | none =>
    rw [behind, Option.or_none]
    rcases settles with ⟨-, effect⟩ | ⟨-, rfl⟩
    · rcases effect.keys_cases confined valid with ⟨same, -⟩ | ⟨key, rfl, -⟩ | ⟨_, -, -, rfl⟩
      · exact same
      · cases claim
      · rfl
    · rfl
  | some key =>
    cases request with
    | takeOwnership block =>
      cases claim
      cases owner : d.vault.owner with
      | none =>
        have taken : Vault.Effect d.config d.vault (.takeOwnership block)
            { d.vault with owner := some block.content } := .takeOwnership owner
        obtain ⟨-, left⟩ := idle.accepts taken nofun
        rw [left]
        rfl
      | some key =>
        rw [behind]
        rcases settles with ⟨-, effect⟩ | ⟨-, rfl⟩
        · cases effect with
          | takeOwnership free =>
            rw [free] at owner
            cases owner
          | keepOwnership => exact owner
        · exact owner
    | _ => cases claim

/-! ## What the hosts keep to -/

/-- Nothing is queued on the drive, and one key is in force. -/
structure Uniform (c : Config) (d : SimulatedDrive) : Prop where
  config : d.config = c
  queue : d.queue = []
  oneOwner : d.vault.OneOwner

namespace Uniform

variable {segment : UInt32}

theorem idle (uniform : Uniform c d) (supported : c.supported = true) : d.Idle :=
  ⟨by rw [uniform.config]; exact supported, uniform.queue⟩

/-- No call about a segment makes a second key. -/
theorem answer (uniform : Uniform c d) (supported : c.supported = true) (confined : request.Confined segment)
    (valid : checkSegment segment = .ok ()) : Uniform c (d.answer request).2 := by
  obtain ⟨v, behind, settles⟩ := (uniform.idle supported).settles request
  rw [behind]
  refine ⟨uniform.config, uniform.queue, ?_⟩
  rcases settles with ⟨-, effect⟩ | ⟨-, rfl⟩
  · exact effect.oneOwner confined valid uniform.oneOwner
  · exact uniform.oneOwner

/-- A call about one segment leaves the others alone. -/
theorem leavesAlone (uniform : Uniform c d) (supported : c.supported = true) (confined : request.Confined segment)
    (valid : checkSegment segment = .ok ()) (validOther : checkSegment p.segment = .ok ())
    (ne : p.segment ≠ segment) : p.LeavesAlone d (d.answer request).2 := by
  have after := uniform.answer supported confined valid
  obtain ⟨v, behind, settles⟩ := (uniform.idle supported).settles request
  rw [behind] at after ⊢
  rcases settles with ⟨-, effect⟩ | ⟨-, rfl⟩
  · exact {
      config := rfl
      queue := id
      tenancy := effect.tenancy_eq confined valid validOther ne
      owner := fun _ => effect.owner_of_some confined valid
      enabled := effect.lockingEnabled_of confined valid
      oneOwner := uniform.oneOwner
      oneOwnerAfter := after.oneOwner }
  · exact ⟨rfl, id, rfl, fun _ => id, id, uniform.oneOwner, uniform.oneOwner⟩

/-- Over any number of calls the first claim stands. -/
theorem owner_of_serves {xs : List Exchange} (uniform : Uniform c d) (supported : c.supported = true)
    (confined : ∀ x ∈ xs, ∃ segment, checkSegment segment = .ok () ∧ x.request.Confined segment)
    (serves : SimulatedDrive.drive.Serves nobody d xs d') :
    Uniform c d' ∧ d'.vault.owner = d.vault.owner.or (firstClaim? (xs.map (·.request))) := by
  induction xs generalizing d with
  | nil =>
    obtain rfl := serves.done_alone SimulatedDrive.steady
    exact ⟨uniform, by simp [firstClaim?]⟩
  | cons x xs ih =>
    obtain ⟨-, rest⟩ := serves.step_alone SimulatedDrive.steady
    obtain ⟨segment, valid, here⟩ := confined x (.head _)
    have owner : (d.answer x.request).2.vault.owner = d.vault.owner.or x.request.claim? :=
      (uniform.idle supported).owner_answer here valid
    obtain ⟨last, same⟩ := ih (uniform.answer supported here valid) (fun y mem => confined y (.tail _ mem)) rest
    refine ⟨last, ?_⟩
    rw [same, owner, Option.or_assoc]
    congr 1
    cases claim : x.request.claim? <;> simp [firstClaim?, claim]

end Uniform

/-! ## The race -/

variable {device name : String} {config : Config} {ps : List Provision} {t : Trace} {rs : List (Except Error Value)}

/-- What a host at some position asks for. -/
def hostCalls (ps : List Provision) (j : Nat) (request : Request) : Prop :=
  ∃ p, ps[j]? = some p ∧ p.Asks request

theorem allAsk_setup : AllAsk (ps.map fun p => (Operation.setup p).procedure device) (hostCalls ps) := by
  intro j procedure found t r yields x mem
  rw [List.getElem?_map] at found
  obtain ⟨p, host, rfl⟩ := Option.map_eq_some_iff.1 found
  rcases Operation.procedure_course yields with ⟨quiet, -⟩ | ⟨-, course⟩
  · rw [quiet] at mem
    cases mem
  · cases course with
    | setup course => exact ⟨p, host, course.asks mem⟩

theorem Uniform.new (name : String) (config : Config) : Uniform config { name, config } :=
  ⟨rfl, rfl, nofun⟩

/-- Each host gets its segment, or finds another owner. -/
theorem race_host (bounds : Provision → BlockBounds)
    (race : Interleaving SimulatedDrive.drive (ps.map fun p => (Operation.setup p).procedure device)
      { name, config } t rs d')
    (distinct : (ps.map Provision.segment).Nodup)
    (suits : ∀ p ∈ ps, p.Suits config (bounds p) ∧ config.KeepsBounds (bounds p)) {i : Nat} (host : ps[i]? = some p) :
    ∃ r, rs[i]? = some r ∧
      ((r = .ok .nothing ∧ d'.vault.isAdmin p.adminKey = true ∧ p.Holds (bounds p) (d'.vault.tenancy p.segment)) ∨
        (FailsAs r .unauthorized ∧ d'.vault.tenancy p.segment = {} ∧
          ∃ key, d'.vault.owner = some key ∧ key ≠ p.adminKey)) := by
  obtain ⟨suitsHost, kept⟩ := suits p (List.mem_of_getElem? host)
  have segments : ∀ q ∈ ps, checkSegment q.segment = .ok () :=
    fun q mem => (Provision.check_eq_ok (suits q mem).1.valid).2.2
  have supported := suitsHost.supported
  -- What any of the hosts asks for keeps the drive under one key.
  have uniform : ∀ s request j, Uniform config s → hostCalls ps j request → Uniform config (s.answer request).2 := by
    rintro s request j here ⟨q, found, asks⟩
    exact here.answer supported asks.confined (segments q (List.mem_of_getElem? found))
  have theirs : ∀ s s₁, Uniform config s → OtherHosts SimulatedDrive.drive (hostCalls ps) i s s₁ →
      Uniform config s₁ := by
    rintro s _ here ⟨j, request, -, calls, rfl⟩
    exact uniform s request j here calls
  have here : (ps.map fun p => (Operation.setup p).procedure device)[i]? =
      some ((Operation.setup p).procedure device) := by simp [host]
  obtain ⟨own, r, found, yields, amid⟩ := race.host SimulatedDrive.steady allAsk_setup here
  have asks : ∀ x ∈ own.exchanges, hostCalls ps i x.request := allAsk_setup i _ here yields
  have opens : ∀ s, Uniform config s → (SimulatedDrive.drive.opening s).1 = .ok () := by
    intro s here
    show (if s.config.failOpen then _ else _) = _
    rw [here.config, suitsHost.opens]
    rfl
  have course := Operation.course_of_amid (.setup p) suitsHost.valid opens theirs (.new name config) yields amid
  obtain ⟨serves, -⟩ := amid.serves.strengthen SimulatedDrive.steady
    (fun s x mem here => uniform s x.request i here (asks x mem)) theirs (.new name config)
  have alone : ∀ s s₁, (OtherHosts SimulatedDrive.drive (hostCalls ps) i s s₁ ∧ Uniform config s ∧ Uniform config s₁) →
      p.LeavesAlone s s₁ := by
    rintro s _ ⟨⟨j, request, other, ⟨q, found, asks⟩, rfl⟩, here, -⟩
    have ne : p.segment ≠ q.segment := by
      intro same
      have first : (ps.map Provision.segment)[i]? = some p.segment := by simp [host]
      have second : (ps.map Provision.segment)[j]? = some p.segment := by simp [found, same]
      have there := (List.getElem?_eq_some_iff.1 second).1
      exact other ((List.getElem?_inj there distinct).1 (second.trans first.symm))
    exact here.leavesAlone supported asks.confined (segments q (List.mem_of_getElem? found))
      (segments p (List.mem_of_getElem? host)) ne
  refine ⟨r, found, ?_⟩
  generalize own.exchanges = xs at course serves
  cases course with
  | @setup _ _ r course =>
    have fresh : p.Contends config {} { name, config } := ⟨⟨rfl, rfl, Vault.tenancy_of_blank rfl rfl _⟩, nofun⟩
    rcases course.contended suitsHost kept alone fresh serves with
      ⟨rfl, before, same, admitted⟩ | ⟨fails, poised, key, owner, other⟩
    · refine .inl ⟨rfl, admitted.admin, ?_⟩
      rw [admitted.tenancy]
      have free : ∀ who, ({} : Range).grants who = false := Range.grants_of_blank rfl
      rcases same with rfl | rfl
      · exact suitsHost.provisioned_holds kept free rfl
      · exact suitsHost.provisioned_holds kept free rfl
    · exact .inr ⟨failsAs_map.2 fails, poised.tenancy, key, owner, other⟩

/-- Whatever the order of their calls, the hosts whose admin key is the one of the first call that takes ownership
get their segments, and the drive is theirs; all the others are refused, and their segments are as they left the
factory. -/
theorem ownership_race (bounds : Provision → BlockBounds)
    (race : Interleaving SimulatedDrive.drive (ps.map fun p => (Operation.setup p).procedure device)
      { name, config } t rs d')
    (someone : ps ≠ []) (distinct : (ps.map Provision.segment).Nodup)
    (suits : ∀ p ∈ ps, p.Suits config (bounds p) ∧ config.KeepsBounds (bounds p)) :
    rs.length = ps.length ∧
      ∃ key, firstClaim? t.requests = some key ∧ d'.vault.owner = some key ∧ d'.vault.admin = some key ∧
        d'.vault.lockingEnabled = true ∧
        ∀ (i : Nat) p r, ps[i]? = some p → rs[i]? = some r →
          if p.adminKey = key then r = .ok .nothing ∧ p.Holds (bounds p) (d'.vault.tenancy p.segment)
          else FailsAs r .unauthorized ∧ d'.vault.tenancy p.segment = {} := by
  refine ⟨by simpa using race.length_eq, ?_⟩
  have confined : ∀ x ∈ t.exchanges, ∃ segment, checkSegment segment = .ok () ∧ x.request.Confined segment := by
    intro x mem
    obtain ⟨j, q, found, asks⟩ := race.asked allAsk_setup x mem
    exact ⟨q.segment, (Provision.check_eq_ok (suits q (List.mem_of_getElem? found)).1.valid).2.2, asks.confined⟩
  obtain ⟨first, more, rfl⟩ := List.exists_cons_of_ne_nil someone
  have supported := (suits first (.head _)).1.supported
  obtain ⟨last, owner⟩ := (Uniform.new name config).owner_of_serves supported confined race.amid.serves
  rw [← Trace.requests_eq, Option.none_or] at owner
  have outcome := fun i p => race_host bounds race distinct suits (i := i) (p := p)
  -- Whoever comes first in the list, the drive has an owner in the end.
  obtain ⟨key, claimed⟩ : ∃ key, d'.vault.owner = some key := by
    obtain ⟨r, -, ⟨-, admin, -⟩ | ⟨-, -, key, owner, -⟩⟩ := outcome 0 first rfl
    · exact ⟨_, last.oneOwner.owner_of_isAdmin admin⟩
    · exact ⟨key, owner⟩
  have claim : firstClaim? t.requests = some key := owner.symm.trans claimed
  -- The first claim was made by one of the hosts, and that host became the administrator.
  obtain ⟨q, mem, rfl⟩ : ∃ q ∈ first :: more, key = q.adminKey := by
    obtain ⟨request, made, claims⟩ := List.exists_of_findSome?_eq_some claim
    rw [Trace.requests_eq] at made
    obtain ⟨x, mem, rfl⟩ := List.mem_map.1 made
    obtain ⟨j, q, found, asks⟩ := race.asked allAsk_setup x mem
    refine ⟨q, List.mem_of_getElem? found, ?_⟩
    obtain ⟨request, a⟩ := x
    cases request with
    | takeOwnership block =>
      obtain rfl := asks.takeOwnership
      exact (Option.some.inj claims).symm.trans (suits q (List.mem_of_getElem? found)).1.adminKey_content
    | _ => cases claims
  have admin : d'.vault.isAdmin q.adminKey = true := by
    obtain ⟨j, found⟩ := List.getElem?_of_mem mem
    obtain ⟨r, -, ⟨-, admin, -⟩ | ⟨-, -, key, owner, other⟩⟩ := outcome j q found
    · exact admin
    · rw [claimed] at owner
      cases owner
      exact absurd rfl other
  obtain ⟨enabled, same⟩ := Vault.isAdmin_iff.1 admin
  refine ⟨q.adminKey, claim, claimed, same, enabled, fun i p r host result => ?_⟩
  obtain ⟨_, found, result'⟩ := outcome i p host
  cases result.symm.trans found
  rcases result' with ⟨ok, admin, holds⟩ | ⟨fails, untouched, key, owner, other⟩
  · have own : p.adminKey = q.adminKey := by
      have owner := last.oneOwner.owner_of_isAdmin admin
      rw [claimed] at owner
      exact (Option.some.inj owner).symm
    rw [if_pos own]
    exact ⟨ok, holds⟩
  · rw [claimed] at owner
    cases owner
    rw [if_neg other.symm]
    exact ⟨fails, untouched⟩

/-- Two hosts with different admin keys, the second always a step ahead of the first until the first is refused. -/
theorem ownership_race_two :
    let p : Provision := ⟨1, 0, 8, [1], [2]⟩
    let q : Provision := ⟨2, 8, 8, [3], [4]⟩
    let config := (SimulatedDrive.new "d").config
    let both := SimulatedDrive.drive.inTurns (List.replicate 25 [1, 0]).flatten
      ([p, q].map fun p => (Operation.setup p).procedure "d") { name := "d", config }
    let bounds : Provision → BlockBounds := fun p => ⟨p.start, p.length⟩
    Interleaving SimulatedDrive.drive ([p, q].map fun p => (Operation.setup p).procedure "d")
        { name := "d", config } both.trace both.results both.drive ∧
      [p, q] ≠ [] ∧ ([p, q].map Provision.segment).Nodup ∧
      (∀ host ∈ [p, q], host.Suits config (bounds host) ∧ config.KeepsBounds (bounds host)) ∧
      (both.trace.requests.map Request.kind).take 7 =
        [.getStatus, .getStatus, .getGeometry, .getGeometry, .takeOwnership, .takeOwnership, .activateLsp] ∧
      both.drive.vault.owner = some [4] ∧ q.Holds ⟨8, 8⟩ (both.drive.vault.tenancy 2) ∧
      ∃ lost won, both.results = [lost, won] ∧ FailsAs lost .unauthorized ∧ won = .ok .nothing ∧
        both.drive.vault.tenancy 1 = {} := by
  intro p q config both bounds
  have race : Interleaving SimulatedDrive.drive ([p, q].map fun p => (Operation.setup p).procedure "d")
      { name := "d", config } both.trace both.results both.drive := interleaving_iff.2 ⟨_, rfl, rfl, rfl⟩
  have distinct : ([p, q].map Provision.segment).Nodup := by decide
  have suitsFirst : p.Suits config (bounds p) ∧ config.KeepsBounds (bounds p) :=
    ⟨⟨rfl, rfl, rfl, rfl, by decide +kernel, by decide +kernel⟩, rfl, rfl⟩
  have suitsSecond : q.Suits config (bounds q) ∧ config.KeepsBounds (bounds q) :=
    ⟨⟨rfl, rfl, rfl, rfl, by decide +kernel, by decide +kernel⟩, rfl, rfl⟩
  have suits : ∀ host ∈ [p, q], host.Suits config (bounds host) ∧ config.KeepsBounds (bounds host) :=
    List.forall_mem_cons.2 ⟨suitsFirst, List.forall_mem_singleton.2 suitsSecond⟩
  obtain ⟨two, key, claim, owner, -, -, outcome⟩ := ownership_race bounds race nofun distinct suits
  have known : firstClaim? both.trace.requests = some [4] := by decide +kernel
  obtain rfl : key = [4] := Option.some.inj (claim.symm.trans known)
  obtain ⟨lost, won, results⟩ := List.length_eq_two.1 two
  have losing := outcome 0 p lost rfl (by rw [results]; rfl)
  have winning := outcome 1 q won rfl (by rw [results]; rfl)
  exact ⟨race, nofun, distinct, suits, by decide +kernel, owner, winning.2, lost, won, results, losing.1, winning.1,
    losing.2⟩

end OpalLocking
