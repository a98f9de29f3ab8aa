import ViamSdk.Dial
import ViamSdk.ResourceConfig
import ViamSdk.ResourceManager

/-!
# The robot client

`refresh`, which asks the machine for its resources and rebuilds the clients
when the list of names has changed, and one pass of the reconnect loop of
`check_connection`, which dials a new channel and refreshes on it.

A refresh runs as one step: the channel is not replaced under it.
-/

namespace ViamSdk

/-- A `common.v1.ResourceName` message. -/
structure ResourceName where
  namespace_ : Str
  type : Str
  subtype : Str
  name : Str
  deriving DecidableEq, Repr

def ResourceName.api (proto : ResourceName) : API :=
  ⟨proto.namespace_, proto.type, proto.subtype⟩

def Name.fromProto (proto : ResourceName) : Name :=
  let nameParts := longNameToRemoteAndShort proto.name
  ⟨proto.api, nameParts.1, nameParts.2⟩

/-- A resource client, with the channel its stub was created on. -/
structure Client where
  api : API
  name : Str
  channel : ℕ
  deriving DecidableEq, Repr

/-- The answers to one refresh: of the machine, of the client registry, of
the client constructors by their order, and of the hash map whose entries
`replace_all` goes through. -/
structure RefreshEnv where
  resourceNames : Except Exception (List ResourceName)
  registered : API → Bool
  createRpcClient : ℕ → ResourceName → Except Exception Unit
  order : NameMap (Option Client) → NameMap (Option Client)
  order_perm : ∀ m, (order m).entries.Perm m.entries

/-- `impl` is the channel that the stub was made on. -/
structure RobotClient where
  channel : ViamChannel
  impl : Option ℕ
  resourceNames : List Name
  resourceManager : ResourceManager Client
  nextChannel : ℕ

namespace RobotClient

def create (channel : ViamChannel) : Cxx RobotClient := do
  let id ← deref channel.pimpl
  return ⟨channel, some id, [], ResourceManager.empty, id + 1⟩

/-- What every remote call does first: it needs the stub, and reads the token
of the channel. -/
def callChannel (s : RobotClient) : Cxx ℕ :=
  match s.impl with
  | none =>
      .error (.thrown (.std
        "Tried to call RobotClient method while not connected to robot".toList))
  | some _ => deref s.channel.pimpl

def createClients (env : RefreshEnv) (channel : ℕ) :
    ℕ → List ResourceName → NameMap (Option Client) →
      Cxx (NameMap (Option Client))
  | _, [], newResources => .ok newResources
  | i, name :: names, newResources =>
      if name.subtype = "remote".toList then
        createClients env channel (i + 1) names newResources
      else if env.registered name.api then
        match env.createRpcClient i name with
        | .ok () =>
            createClients env channel (i + 1) names
              (newResources.emplace ⟨name.api, [], name.name⟩
                (some ⟨name.api, name.name, channel⟩))
        | .error e =>
            if e.isStd then createClients env channel (i + 1) names newResources
            else .error (.thrown e)
      else createClients env channel (i + 1) names newResources

/-- The first half of `refresh`: the names the machine lists and the clients
created for them. -/
def fetch (env : RefreshEnv) (s : RobotClient) :
    Cxx (List Name × NameMap (Option Client)) := do
  let channel ← s.callChannel
  let resources ← rethrow env.resourceNames
  let newResources ← createClients env channel 0 resources NameMap.empty
  return (resources.map Name.fromProto, newResources)

/-- `==` on vectors of names. -/
def SameNames (a b : List Name) : Prop :=
  a.map Name.toString = b.map Name.toString

instance (a b : List Name) : Decidable (SameNames a b) :=
  inferInstanceAs (Decidable (_ = _))

def refresh (env : RefreshEnv) (s : RobotClient) : Cxx Unit × RobotClient :=
  match s.fetch env with
  | .error fault => (.error fault, s)
  | .ok (currentResources, newResources) =>
      if SameNames currentResources s.resourceNames then (.ok (), s)
      else
        (.ok (), { s with
          resourceNames := currentResources
          resourceManager :=
            (s.resourceManager.replaceAll (env.order newResources)).2 })

def closeChannel (s : RobotClient) : RobotClient :=
  { s with channel := s.channel.close }

/-! ## One pass of the reconnect loop -/

structure AttemptEnv where
  dial : DialEnv
  refresh : RefreshEnv

/-- The client after a pass; the outcome says whether `connected` was set, or
what left the `catch` clause. -/
structure Attempt where
  client : RobotClient
  outcome : Cxx Bool

/-- `catch (const std::exception&)`, which closes the channel. -/
def caught (fault : Fault) (s : RobotClient) : Attempt :=
  match fault with
  | .thrown e =>
      if e.isStd then ⟨s.closeChannel, .ok false⟩
      else ⟨s, .error (.thrown e)⟩
  | .nullDereference => ⟨s, .error .nullDereference⟩

def redialed (channel : ViamChannel) (s : RobotClient) : RobotClient :=
  { s with
    channel := channel
    impl := some s.nextChannel
    nextChannel := s.nextChannel + 1 }

def attempt (uri : UriPointer) (env : AttemptEnv) (s : RobotClient) : Attempt :=
  match ViamChannel.dial uri none env.dial s.nextChannel with
  | .error fault => caught fault s
  | .ok channel =>
      match (s.redialed channel).refresh env.refresh with
      | (.ok (), s) => ⟨s, .ok true⟩
      | (.error fault, s) => caught fault s

/-- The passes of the loop, up to one that an exception leaves. -/
def reconnectLoop (uri : UriPointer) :
    List AttemptEnv → RobotClient → List Attempt
  | [], _ => []
  | env :: envs, s =>
      let a := attempt uri env s
      match a.outcome with
      | .ok _ => a :: reconnectLoop uri envs a.client
      | .error _ => [a]

/-! ## What a refresh does -/

/-- No client constructor that the loop runs throws anything but a
`std::exception`. -/
def CreatesQuietly (env : RefreshEnv) : ℕ → List ResourceName → Prop
  | _, [] => True
  | i, name :: names =>
      (name.subtype ≠ "remote".toList → env.registered name.api = true →
        ∀ e, env.createRpcClient i name = .error e → e.isStd = true) ∧
      CreatesQuietly env (i + 1) names

/-- On a channel that is there, the refresh returns normally. -/
def RefreshReturns (env : RefreshEnv) : Prop :=
  ∃ names, env.resourceNames = .ok names ∧ CreatesQuietly env 0 names

/-- Something that is not a `std::exception` leaves the refresh. -/
def RefreshEscapes (env : RefreshEnv) : Prop :=
  match env.resourceNames with
  | .ok names => ¬ CreatesQuietly env 0 names
  | .error e => e.isStd = false

theorem not_returns_and_escapes
    {env : RefreshEnv} :
    ¬ (RefreshReturns env ∧ RefreshEscapes env) := by
  intro h
  rcases h with ⟨⟨names, hnames, hquiet⟩, hescapes⟩
  unfold RefreshEscapes at hescapes
  rw [hnames] at hescapes
  exact hescapes hquiet

theorem createClients_cases
    (env : RefreshEnv) (channel i : ℕ) (names : List ResourceName)
    (newResources : NameMap (Option Client)) :
    (CreatesQuietly env i names ∧ ∃ created,
      createClients env channel i names newResources = .ok created) ∨
    (¬ CreatesQuietly env i names ∧ ∃ e, e.isStd = false ∧
      createClients env channel i names newResources = .error (.thrown e)) := by
  induction names generalizing i newResources with
  | nil => exact Or.inl ⟨trivial, _, rfl⟩
  | cons name names ih =>
      unfold createClients CreatesQuietly
      split
      next hremote =>
        have hskip : (name.subtype ≠ "remote".toList →
            env.registered name.api = true →
            ∀ e, env.createRpcClient i name = .error e → e.isStd = true) :=
          fun hne => absurd hremote hne
        rw [and_iff_right hskip]
        exact ih (i + 1) newResources
      next hremote =>
        split
        next hregistered =>
          cases hcreate : env.createRpcClient i name with
          | ok u =>
              simp only [reduceCtorEq, false_implies, implies_true, true_and]
              exact ih (i + 1) _
          | error e =>
              cases hstd : e.isStd with
              | true =>
                  simp only [Except.error.injEq, forall_eq', hstd,
                    implies_true, true_and, if_true]
                  exact ih (i + 1) newResources
              | false =>
                  right
                  constructor
                  · intro hquiet
                    have hstd' := hquiet.1 hremote hregistered e rfl
                    rw [hstd] at hstd'
                    cases hstd'
                  · exact ⟨e, hstd, by simp [hstd]⟩
        next hregistered =>
          simp only [hregistered, Bool.false_eq_true, false_implies,
            implies_true, true_and]
          exact ih (i + 1) newResources

theorem channel_of_mem_createClients
    {env : RefreshEnv} {channel i : ℕ} {names : List ResourceName}
    {newResources created : NameMap (Option Client)}
    (h : createClients env channel i names newResources = .ok created)
    (hnew : ∀ entry ∈ newResources.entries, ∃ client, entry.2 = some client ∧
      client.channel = channel) :
    ∀ entry ∈ created.entries,
      ∃ client, entry.2 = some client ∧ client.channel = channel := by
  induction names generalizing i newResources with
  | nil =>
      cases h
      exact hnew
  | cons name names ih =>
      unfold createClients at h
      split at h
      next => exact ih h hnew
      next =>
        split at h
        next =>
          split at h
          next =>
            apply ih h
            intro entry hentry
            rcases NameMap.mem_emplace_cases hentry with hold | heq
            · exact hnew entry hold
            · rw [heq]
              exact ⟨_, rfl, rfl⟩
          next =>
            split at h
            next => exact ih h hnew
            next => cases h
        next => exact ih h hnew

theorem create_ok
    {channel : ViamChannel} {client : RobotClient}
    (h : create channel = .ok client) :
    ∃ id, channel.pimpl = some id ∧
      client = ⟨channel, some id, [], ResourceManager.empty, id + 1⟩ := by
  unfold create at h
  cases hpimpl : channel.pimpl with
  | none =>
      rw [hpimpl] at h
      cases h
  | some id =>
      rw [hpimpl] at h
      exact ⟨id, rfl, (Except.ok.inj h).symm⟩

section Refresh

variable {s : RobotClient}

theorem callChannel_ok_iff (c : ℕ) :
    s.callChannel = .ok c ↔ s.impl ≠ none ∧ s.channel.pimpl = some c := by
  unfold callChannel
  cases s.impl with
  | none => simp
  | some stub =>
      cases s.channel.pimpl with
      | none => simp
      | some id => simp

theorem refresh_connection
    (env : RefreshEnv) (s : RobotClient) :
    (s.refresh env).2.channel = s.channel ∧
      (s.refresh env).2.impl = s.impl ∧
      (s.refresh env).2.nextChannel = s.nextChannel := by
  unfold refresh
  split
  next => exact ⟨rfl, rfl, rfl⟩
  next =>
    split
    next => exact ⟨rfl, rfl, rfl⟩
    next => exact ⟨rfl, rfl, rfl⟩

theorem fetch_of_open
    {c : ℕ} (hopen : s.callChannel = .ok c) (env : RefreshEnv) :
    s.fetch env =
      match env.resourceNames with
      | .error e => .error (.thrown e)
      | .ok names =>
          match createClients env c 0 names NameMap.empty with
          | .error fault => .error fault
          | .ok created => .ok (names.map Name.fromProto, created) := by
  unfold fetch
  rw [hopen]
  cases hnames : env.resourceNames with
  | error e => rfl
  | ok names =>
      cases hcreated : createClients env c 0 names NameMap.empty with
      | error fault => simp [bind, Except.bind, rethrow, hcreated]
      | ok created =>
          simp [bind, Except.bind, rethrow, hcreated, pure, Except.pure]

theorem fetch_cases
    {c : ℕ} (hopen : s.callChannel = .ok c) (env : RefreshEnv) :
    (∃ names created, env.resourceNames = .ok names ∧
      CreatesQuietly env 0 names ∧
      createClients env c 0 names NameMap.empty = .ok created ∧
      s.fetch env = .ok (names.map Name.fromProto, created)) ∨
    (RefreshEscapes env ∧ ∃ e, e.isStd = false ∧
      s.fetch env = .error (.thrown e)) ∨
    (¬ RefreshReturns env ∧ ¬ RefreshEscapes env ∧ ∃ e, e.isStd = true ∧
      s.fetch env = .error (.thrown e)) := by
  have hfetch := fetch_of_open hopen env
  unfold RefreshReturns RefreshEscapes
  cases hnames : env.resourceNames with
  | error e =>
      rw [hnames] at hfetch
      cases hstd : e.isStd with
      | false =>
          right
          left
          exact ⟨hstd, e, hstd, hfetch⟩
      | true =>
          right
          right
          exact ⟨by simp, by simp [hstd], e, hstd, hfetch⟩
  | ok names =>
      rw [hnames] at hfetch
      simp only at hfetch
      rcases createClients_cases env c 0 names NameMap.empty with
        ⟨hquiet, created, hcreated⟩ | ⟨hloud, e, hstd, hcreated⟩
      · left
        rw [hcreated] at hfetch
        exact ⟨names, created, rfl, hquiet, hcreated, hfetch⟩
      · right
        left
        rw [hcreated] at hfetch
        exact ⟨hloud, e, hstd, hfetch⟩

theorem refresh_of_open
    {c : ℕ} (hopen : s.callChannel = .ok c) (env : RefreshEnv) :
    (RefreshReturns env ∧ (s.refresh env).1 = .ok ()) ∨
    (RefreshEscapes env ∧ ∃ e, e.isStd = false ∧
      s.refresh env = (.error (.thrown e), s)) ∨
    (¬ RefreshReturns env ∧ ¬ RefreshEscapes env ∧ ∃ e, e.isStd = true ∧
      s.refresh env = (.error (.thrown e), s)) := by
  unfold refresh
  rcases fetch_cases hopen env with
    ⟨names, created, hnames, hquiet, -, hfetch⟩ |
      ⟨hescapes, e, hstd, hfetch⟩ | ⟨hreturns, hescapes, e, hstd, hfetch⟩
  · left
    refine ⟨⟨names, hnames, hquiet⟩, ?_⟩
    simp only [hfetch]
    split
    next => rfl
    next => rfl
  · right
    left
    exact ⟨hescapes, e, hstd, by rw [hfetch]⟩
  · right
    right
    exact ⟨hreturns, hescapes, e, hstd, by rw [hfetch]⟩

theorem refresh_ok_iff_of_open
    {c : ℕ} (hopen : s.callChannel = .ok c) (env : RefreshEnv) :
    (s.refresh env).1 = .ok () ↔ RefreshReturns env := by
  rcases refresh_of_open hopen env with
    ⟨hreturns, hok⟩ | ⟨hescapes, e, -, hrefresh⟩ | ⟨hnot, -, e, -, hrefresh⟩
  · exact iff_of_true hok hreturns
  · apply iff_of_false
    · intro hok
      rw [hrefresh] at hok
      cases hok
    · intro hreturns
      exact not_returns_and_escapes ⟨hreturns, hescapes⟩
  · apply iff_of_false _ hnot
    intro hok
    rw [hrefresh] at hok
    cases hok

end Refresh

end RobotClient

end ViamSdk
