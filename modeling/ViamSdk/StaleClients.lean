import ViamSdk.CheckConnection

/-!
# Resource clients and the channel they were created on

A refresh rebuilds the resource clients only when the list of names has
changed, whether or not the channel is still the one they were created on.
Each dial gives a channel no client knows yet, so after it every client that
is held is stale until a refresh rebuilds them.
-/

namespace ViamSdk

namespace ResourceManager

variable {ρ : Type}

def AllStored (P : Option ρ → Prop) (m : ResourceManager ρ) : Prop :=
  ∀ key v, m.resources.lookup key = some v → P v

theorem AllStored.addAll
    {P : Option ρ → Prop} {m : ResourceManager ρ} (hm : m.AllStored P)
    (entries : List (Name × Option ρ)) (hentries : ∀ entry ∈ entries, P entry.2) :
    (addAll entries m).AllStored P := by
  intro key v hlookup
  rcases exists_entry_of_lookup_addAll hlookup with
    hold | ⟨entry, hentry, -, hv⟩
  · exact hm key v hold
  · rw [← hv]
    exact hentries entry hentry

theorem allStored_empty (P : Option ρ → Prop) :
    (empty : ResourceManager ρ).AllStored P := by
  intro key v hlookup
  cases hlookup

theorem allStored_replaceAll
    {P : Option ρ → Prop} (resources : NameMap (Option ρ))
    (m : ResourceManager ρ) (h : ∀ entry ∈ resources.entries, P entry.2) :
    (m.replaceAll resources).2.AllStored P :=
  (allStored_empty P).addAll resources.entries h

end ResourceManager

namespace RobotClient

open StepTrace

/-! ## Refreshes that rebuild and refreshes that return early -/

/-- The machine lists the names the client already has. -/
def ReturnsEarly (env : RefreshEnv) (s : RobotClient) : Prop :=
  ∃ names, env.resourceNames = .ok names ∧ CreatesQuietly env 0 names ∧
    SameNames (names.map Name.fromProto) s.resourceNames

theorem returnsEarly_iff
    {env : RefreshEnv} {s : RobotClient} {names : List ResourceName}
    (hnames : env.resourceNames = .ok names)
    (hquiet : CreatesQuietly env 0 names) :
    ReturnsEarly env s ↔
      SameNames (names.map Name.fromProto) s.resourceNames := by
  constructor
  · intro h
    rcases h with ⟨names', heq, -, hsame⟩
    rw [hnames] at heq
    cases heq
    exact hsame
  · intro hsame
    exact ⟨names, hnames, hquiet, hsame⟩

def CreatedOn (channel : ℕ) (v : Option Client) : Prop :=
  ∃ client, v = some client ∧ client.channel = channel

theorem refresh_ok_cases
    {s : RobotClient} {env : RefreshEnv} {c : ℕ} (hopen : s.callChannel = .ok c)
    (hok : (s.refresh env).1 = .ok ()) :
    (ReturnsEarly env s ∧ rebuilds env s = false ∧ (s.refresh env).2 = s) ∨
    (¬ ReturnsEarly env s ∧ rebuilds env s = true ∧
      (s.refresh env).2.resourceManager.AllStored (CreatedOn c)) := by
  unfold refresh at hok ⊢
  unfold rebuilds
  rcases fetch_cases hopen env with
    ⟨names, created, hnames, hquiet, hcreated, hfetch⟩ | ⟨-, e, -, hfetch⟩ |
      ⟨-, -, e, -, hfetch⟩
  · have hearly := returnsEarly_iff (s := s) hnames hquiet
    simp only [hfetch]
    by_cases hsame : SameNames (names.map Name.fromProto) s.resourceNames
    · left
      exact ⟨hearly.mpr hsame, by simp [hsame], by simp [hsame]⟩
    · right
      refine ⟨fun h => hsame (hearly.mp h), by simp [hsame], ?_⟩
      simp only [hsame, if_false]
      apply ResourceManager.allStored_replaceAll
      intro entry hentry
      apply channel_of_mem_createClients hcreated
      · intro other hother
        cases hother
      · exact (env.order_perm created).mem_iff.mp hentry
  · simp only [hfetch] at hok
    cases hok
  · simp only [hfetch] at hok
    cases hok

theorem refresh_error_cases
    {s : RobotClient} {env : RefreshEnv} (herror : (s.refresh env).1 ≠ .ok ()) :
    rebuilds env s = false ∧ (s.refresh env).2 = s := by
  unfold refresh at herror ⊢
  unfold rebuilds
  cases hfetch : s.fetch env with
  | ok fetched =>
      rw [hfetch] at herror
      simp only at herror
      split at herror
      next => exact absurd rfl herror
      next => exact absurd rfl herror
  | error fault => exact ⟨rfl, rfl⟩

/-! ## The invariant -/

/-- The client is of an older channel, or of the current one, by the flag. -/
structure HeldInv (nextChannel : ℕ) (pimpl : Option ℕ) (redialed : Bool)
    (v : Option Client) : Prop where
  isClient : ∃ client, v = some client ∧ client.channel < nextChannel ∧
    ∀ c, pimpl = some c → (client.channel = c ↔ redialed = false)

/-- Channel numbers are fresh, and every client held obeys the flag. -/
structure ChannelInv (client : RobotClient) (redialed : Bool) : Prop where
  fresh : ∀ c, client.channel.pimpl = some c → c < client.nextChannel
  held : client.resourceManager.AllStored
    (HeldInv client.nextChannel client.channel.pimpl redialed)

theorem ChannelInv.closeChannel
    {client : RobotClient} {redialed : Bool} (h : ChannelInv client redialed)
    (redialed' : Bool) :
    ChannelInv client.closeChannel redialed' := by
  constructor
  · intro c hc
    cases hc
  · intro key v hlookup
    rcases (h.held key v hlookup).isClient with ⟨held, hv, hlt, -⟩
    refine ⟨held, hv, hlt, ?_⟩
    intro c hc
    cases hc

/-- After a dial every client that is held is of an older channel. -/
theorem ChannelInv.redialed
    {client : RobotClient} {flag : Bool} (h : ChannelInv client flag)
    (uri : UriPointer) :
    ChannelInv (client.redialed ⟨uri, some client.nextChannel⟩) true := by
  constructor
  · intro c hc
    cases hc
    exact Nat.lt_succ_self _
  · intro key v hlookup
    rcases (h.held key v hlookup).isClient with ⟨held, hv, hlt, -⟩
    refine ⟨held, hv, Nat.lt_succ_of_lt hlt, ?_⟩
    intro c hc
    cases hc
    simp only [Bool.true_eq_false, iff_false]
    omega

theorem callChannel_pimpl
    {s : RobotClient} {c : ℕ} (hopen : s.callChannel = .ok c) :
    s.channel.pimpl = some c :=
  ((callChannel_ok_iff c).mp hopen).2

theorem callChannel_of_refresh_ok
    {s : RobotClient} {env : RefreshEnv} (hok : (s.refresh env).1 = .ok ()) :
    ∃ c, s.callChannel = .ok c := by
  cases hopen : s.callChannel with
  | ok c => exact ⟨c, rfl⟩
  | error fault =>
      have hfetch : s.fetch env = .error fault := by
        unfold fetch
        rw [hopen]
        rfl
      unfold refresh at hok
      rw [hfetch] at hok
      cases hok

theorem ChannelInv.refresh
    {client : RobotClient} {flag : Bool} (h : ChannelInv client flag)
    (env : RefreshEnv) :
    ChannelInv (client.refresh env).2 (flag && !rebuilds env client) := by
  by_cases hok : (client.refresh env).1 = .ok ()
  · rcases callChannel_of_refresh_ok hok with ⟨c, hopen⟩
    rcases refresh_ok_cases hopen hok with
      ⟨-, hrebuilds, hsame⟩ | ⟨-, hrebuilds, hstored⟩
    · rw [hrebuilds, hsame]
      simpa using h
    · have hconnection := refresh_connection env client
      have hpimpl := callChannel_pimpl hopen
      rw [hrebuilds]
      constructor
      · rw [hconnection.1, hconnection.2.2]
        exact h.fresh
      · intro key v hlookup
        rcases hstored key v hlookup with ⟨held, hv, hchannel⟩
        rw [hconnection.1, hconnection.2.2, hpimpl]
        refine ⟨held, hv, ?_, ?_⟩
        · rw [hchannel]
          exact h.fresh c hpimpl
        · intro c' hc'
          cases hc'
          simp [hchannel]
  · rcases refresh_error_cases hok with ⟨hrebuilds, hsame⟩
    rw [hrebuilds, hsame]
    simpa using h

/-! ## What a refresh owes -/

def HeldOnCurrent (client : RobotClient) : Prop :=
  ∀ key held, client.resourceManager.resources.lookup key =
    some (some held) → client.channel.pimpl = some held.channel

/-- The refresh does not return early over clients that a dial made stale. -/
def RefreshSafe (env : RefreshEnv) (client : RobotClient) (redialed : Bool) :
    Prop :=
  (∃ c, client.callChannel = .ok c) → ReturnsEarly env client →
    redialed = false ∨ client.resourceManager.resources.keys = []

theorem exists_lookup_of_keys_ne
    {m : ResourceManager Client} (h : m.resources.keys ≠ []) :
    ∃ key v, m.resources.lookup key = some v := by
  rcases List.exists_mem_of_ne_nil _ h with ⟨key, hkey⟩
  rcases UnorderedMap.exists_lookup_of_mem (AList.mem_keys.mpr hkey) with
    ⟨v, hv⟩
  exact ⟨key, v, hv⟩

theorem heldOnCurrent_refresh_iff
    {client : RobotClient} {flag : Bool} (h : ChannelInv client flag)
    (env : RefreshEnv) :
    ((client.refresh env).1 = .ok () →
      HeldOnCurrent (client.refresh env).2) ↔
    RefreshSafe env client flag := by
  by_cases hok : (client.refresh env).1 = .ok ()
  · rcases callChannel_of_refresh_ok hok with ⟨c, hopen⟩
    have hpimpl := callChannel_pimpl hopen
    rcases refresh_ok_cases hopen hok with
      ⟨hearly, -, hsame⟩ | ⟨hearly, -, hstored⟩
    · have hsafe : RefreshSafe env client flag ↔
          flag = false ∨ client.resourceManager.resources.keys = [] := by
        constructor
        · intro hs
          exact hs ⟨c, hopen⟩ hearly
        · intro hs _ _
          exact hs
      rw [hsafe, hsame]
      constructor
      · intro hheld
        by_cases hkeys : client.resourceManager.resources.keys = []
        · exact Or.inr hkeys
        · left
          rcases exists_lookup_of_keys_ne hkeys with ⟨key, v, hlookup⟩
          rcases (h.held key v hlookup).isClient with ⟨held, hv, -, hflag⟩
          subst v
          have hcurrent := hheld hok key held hlookup
          exact (hflag _ hcurrent).mp rfl
      · intro hsafe' _ key held hlookup
        rcases hsafe' with hflag | hkeys
        · rcases (h.held key _ hlookup).isClient with ⟨held', hv, -, hiff⟩
          cases hv
          rw [hpimpl, (hiff c hpimpl).mpr hflag]
        · have hmem := UnorderedMap.mem_of_lookup hlookup
          rw [AList.mem_keys, hkeys] at hmem
          cases hmem
    · apply iff_of_true
      · intro _ key held hlookup
        rcases hstored key _ hlookup with ⟨held', hv, hchannel⟩
        cases hv
        rw [(refresh_connection env client).1, hpimpl, hchannel]
      · intro _ h'
        exact absurd h' hearly
  · apply iff_of_true
    · intro h'
      exact absurd h' hok
    · intro hopen hearly
      rcases hopen with ⟨c, hopen⟩
      rcases hearly with ⟨names, hnames, hquiet, -⟩
      have hreturns : RefreshReturns env := ⟨names, hnames, hquiet⟩
      exact absurd ((refresh_ok_iff_of_open hopen env).mpr hreturns) hok

/-! ## Steps -/

theorem ChannelInv.probeStep
    {s : System} (h : ChannelInv s.client s.redialed)
    (answer : Except Exception Unit) (failed : ℕ) :
    ChannelInv (s.probeStep answer failed).client
      (s.probeStep answer failed).redialed := by
  unfold System.probeStep
  split
  next => exact h
  next =>
    split
    next =>
      split
      next => exact h
      next => exact h.closeChannel _
    next => exact h
  next => exact h

theorem attemptStep_fields
    (env : AttemptEnv) (uri : UriPointer) (passes : ℕ) (s : System) :
    (s.attemptStep env uri passes).client = (attempt uri env s.client).client ∧
      (s.attemptStep env uri passes).redialed =
        if env.dial.path then
          !rebuilds env.refresh
            (s.client.redialed ⟨uri, some s.client.nextChannel⟩)
        else s.redialed := by
  unfold System.attemptStep
  simp only
  split
  next => exact ⟨rfl, rfl⟩
  next => exact ⟨rfl, rfl⟩

theorem callChannel_redialed
    (s : RobotClient) (uri : UriPointer) :
    (s.redialed ⟨uri, some s.nextChannel⟩).callChannel = .ok s.nextChannel :=
  rfl

theorem ChannelInv.attemptStep
    {s : System} (h : ChannelInv s.client s.redialed) (env : AttemptEnv)
    (uri : UriPointer) (passes : ℕ) :
    ChannelInv (s.attemptStep env uri passes).client
      (s.attemptStep env uri passes).redialed := by
  have hfields := attemptStep_fields env uri passes s
  have hdialled := h.redialed uri
  rw [hfields.1, hfields.2]
  rcases attempt_cases uri env s.client with
    ⟨-, hattempt⟩ | ⟨hsucceeds, hattempt⟩ | ⟨hescapes, fault, hattempt⟩ |
      ⟨-, -, hattempt⟩
  · rw [hattempt]
    exact h.closeChannel _
  · rw [hattempt, if_pos hsucceeds.1]
    have hrefreshed := hdialled.refresh env.refresh
    rw [Bool.true_and] at hrefreshed
    exact hrefreshed
  · rw [hattempt, if_pos hescapes.1]
    have hfailed : ((s.client.redialed ⟨uri, some s.client.nextChannel⟩).refresh
        env.refresh).1 ≠ .ok () := by
      rw [Ne, refresh_ok_iff_of_open (callChannel_redialed s.client uri)]
      intro hreturns
      exact not_returns_and_escapes ⟨hreturns, hescapes.2⟩
    rw [(refresh_error_cases hfailed).1]
    exact hdialled
  · rw [hattempt]
    exact hdialled.closeChannel _

theorem ChannelInv.refreshStep
    {s : System} (h : ChannelInv s.client s.redialed) (env : RefreshEnv) :
    ChannelInv (s.refreshStep env).client (s.refreshStep env).redialed := by
  have hrefreshed := h.refresh env
  unfold System.refreshStep
  rcases hrefresh : s.client.refresh env with ⟨outcome, client⟩
  rw [hrefresh] at hrefreshed
  split
  next client' hfault =>
    cases hfault
    have hfailed : (s.client.refresh env).1 ≠ .ok () := by
      rw [hrefresh]
      intro hok
      cases hok
    rw [(refresh_error_cases hfailed).1] at hrefreshed
    simpa using hrefreshed
  next outcome' client' hother heq =>
    cases heq
    exact hrefreshed

theorem ChannelInv.closeStep
    {s : System} (h : ChannelInv s.client s.redialed)
    (answer : Except Exception Unit) :
    ChannelInv (s.closeStep answer).client (s.closeStep answer).redialed := by
  unfold System.closeStep
  split
  next =>
    have hclosed := h.closeChannel s.redialed
    exact ⟨hclosed.fresh, hclosed.held⟩
  next => exact h
  next => exact h

theorem ChannelInv.step
    {s s' : System} {e : Event} (h : ChannelInv s.client s.redialed)
    (hstep : System.Step s e s') :
    ChannelInv s'.client s'.redialed := by
  rcases System.step_cases hstep with
    ⟨-, -, hs⟩ | ⟨answer, failed, -, -, hs⟩ | ⟨env, uri, passes, -, -, hs⟩ |
    ⟨env, -, hs⟩ | ⟨memory, -, hs⟩ | ⟨-, hs⟩ | ⟨answer, -, -, hs⟩
  · subst s'
    exact h
  · subst s'
    exact h.probeStep answer failed
  · subst s'
    exact h.attemptStep env uri passes
  · subst s'
    exact h.refreshStep env
  · subst s'
    exact h
  · subst s'
    exact h
  · subst s'
    exact h.closeStep answer

/-! ## Runs -/

/-- After a refresh that returns normally no client that is held is stale. -/
def NoStaleClients (s : System) (e : Event) (s' : System) : Prop :=
  match e with
  | .refresh env => (s.client.refresh env).1 = .ok () →
      HeldOnCurrent s'.client
  | .attempt env => ∀ uri passes, s.check = .reconnecting uri passes →
      (attempt uri env s.client).outcome = .ok true → HeldOnCurrent s'.client
  | _ => True

/-- No refresh of the step returns early over clients that a dial has made
stale. -/
def RefreshesSafely (s : System) (e : Event) (_ : System) : Prop :=
  match e with
  | .refresh env => RefreshSafe env s.client s.redialed
  | .attempt env => ∀ uri passes, s.check = .reconnecting uri passes →
      env.dial.path = true →
      RefreshSafe env.refresh
        (s.client.redialed ⟨uri, some s.client.nextChannel⟩) true
  | _ => True

theorem noStaleClients_attempt_iff
    {s : System} (h : ChannelInv s.client s.redialed) (env : AttemptEnv)
    (uri : UriPointer) (passes : ℕ) :
    ((attempt uri env s.client).outcome = .ok true →
      HeldOnCurrent (s.attemptStep env uri passes).client) ↔
    (env.dial.path = true → RefreshSafe env.refresh
      (s.client.redialed ⟨uri, some s.client.nextChannel⟩) true) := by
  rw [(attemptStep_fields env uri passes s).1,
    ← heldOnCurrent_refresh_iff (h.redialed uri) env.refresh]
  have hok := refresh_ok_iff_of_open (callChannel_redialed s.client uri)
    env.refresh
  rcases attempt_cases uri env s.client with
    ⟨hpath, hattempt⟩ | ⟨hsucceeds, hattempt⟩ |
      ⟨hescapes, fault, hattempt⟩ | ⟨hsucceeds, hescapes, hattempt⟩
  · rw [hattempt, hpath]
    simp
  · rw [hattempt]
    simp only [hok.mpr hsucceeds.2, hsucceeds.1, forall_const]
  · apply iff_of_true
    · rw [hattempt]
      intro houtcome
      cases houtcome
    · intro _ hrefresh
      have hreturns := hok.mp hrefresh
      exact absurd ⟨hreturns, hescapes.2⟩ not_returns_and_escapes
  · apply iff_of_true
    · rw [hattempt]
      intro houtcome
      cases houtcome
    · intro hpath hrefresh
      exact absurd ⟨hpath, hok.mp hrefresh⟩ hsucceeds

theorem noStaleClients_step_iff
    {s s' : System} {e : Event} (h : ChannelInv s.client s.redialed)
    (hstep : System.Step s e s') :
    NoStaleClients s e s' ↔ RefreshesSafely s e s' := by
  rcases System.step_cases hstep with
    ⟨he, -⟩ | ⟨answer, failed, he, -⟩ | ⟨env, uri, passes, he, hcheck, hs⟩ |
    ⟨env, he, hs⟩ | ⟨memory, he, -⟩ | ⟨he, -⟩ | ⟨answer, he, -⟩
  · subst e
    exact Iff.rfl
  · subst e
    exact Iff.rfl
  · subst e
    subst s'
    have hone := noStaleClients_attempt_iff h env uri passes
    unfold NoStaleClients RefreshesSafely
    constructor
    · intro hall uri' passes' hcheck'
      rw [hcheck] at hcheck'
      cases hcheck'
      exact hone.mp (hall uri passes hcheck)
    · intro hall uri' passes' hcheck'
      rw [hcheck] at hcheck'
      cases hcheck'
      exact hone.mpr (hall uri passes hcheck)
  · subst e
    subst s'
    have hclient : (s.refreshStep env).client = (s.client.refresh env).2 := by
      unfold System.refreshStep
      split
      next client hrefresh => rw [hrefresh]
      next outcome client hother hrefresh => rw [hrefresh]
    unfold NoStaleClients RefreshesSafely
    simp only [hclient]
    exact heldOnCurrent_refresh_iff h env
  · subst e
    exact Iff.rfl
  · subst e
    exact Iff.rfl
  · subst e
    exact Iff.rfl

/-- In any run of a client, no refresh leaves stale clients behind exactly if
none returns early over clients that a dial has made stale. -/
theorem noStaleClients_iff
    {channel : ViamChannel} {client : RobotClient}
    (hcreate : create channel = .ok client) (memory : Memory)
    (checkEvery reconnectEvery : ℕ) {run : List (Event × System)}
    (hrun : IsRun System.Step (System.start client memory checkEvery
      reconnectEvery) run) :
    AllSteps NoStaleClients
        (System.start client memory checkEvery reconnectEvery) run ↔
      AllSteps RefreshesSafely
        (System.start client memory checkEvery reconnectEvery) run := by
  apply hrun.allSteps_iff
    (fun _ _ _ h hstep => ChannelInv.step h hstep)
    (fun _ _ _ h hstep => noStaleClients_step_iff h hstep)
  rcases create_ok hcreate with ⟨id, hpimpl, hclient⟩
  subst client
  constructor
  · intro c hc
    have hid : some id = some c := hpimpl.symm.trans hc
    cases hid
    exact Nat.lt_succ_self _
  · exact ResourceManager.allStored_empty _

def armMachine : RefreshEnv :=
  { emptyMachine with
    resourceNames := .ok [⟨kRDK, kComponent, "arm".toList, "left".toList⟩]
    registered := fun _ => true }

def robotChannel : ViamChannel := ⟨.buffer 0, some 0⟩

def robotClient : RobotClient :=
  ⟨robotChannel, some 0, [], ResourceManager.empty, 1⟩

/-- A first refresh lists the arm; then the connection is lost, and the
machine that is dialled lists what is given. -/
def refreshLossAndRedial (after : RefreshEnv) : List (Event × System) :=
  System.runOf (System.start robotClient (fun _ => some "robot".toList) 1 1)
    (.refresh armMachine :: System.lossAndRedial after)

theorem noStaleClients_emptyMachine :
    AllSteps NoStaleClients
      (System.start robotClient (fun _ => some "robot".toList) 1 1)
      (refreshLossAndRedial emptyMachine) := by
  have hcreate : create robotChannel = .ok robotClient := rfl
  apply (noStaleClients_iff hcreate _ 1 1 (System.isRun_runOf _ _)).mpr
  refine ⟨fun _ _ => Or.inl rfl, trivial, trivial, trivial, trivial, ?_, trivial⟩
  intro uri passes _ _ _ hearly
  rcases hearly with ⟨names, hnames, -, hsame⟩
  cases hnames
  have hnone : ([] : List Str) = ["rdk:component:arm/left".toList] := hsame
  cases hnone

/-- The machine lists the same arm as before, and its client stays behind on
the channel that was lost. -/
theorem not_noStaleClients_armMachine :
    IsRun System.Step
        (System.start robotClient (fun _ => some "robot".toList) 1 1)
        (refreshLossAndRedial armMachine) ∧
      ¬ AllSteps NoStaleClients
        (System.start robotClient (fun _ => some "robot".toList) 1 1)
        (refreshLossAndRedial armMachine) := by
  constructor
  · exact System.isRun_runOf _ _
  · intro hall
    have hheld := hall.2.2.2.2.2.1 (.buffer 0) 0 rfl rfl
    have hstale := hheld "left".toList
      ⟨⟨kRDK, kComponent, "arm".toList⟩, "left".toList, 0⟩ (by decide)
    cases hstale

end RobotClient
end ViamSdk
