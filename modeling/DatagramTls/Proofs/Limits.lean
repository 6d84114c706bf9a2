import DatagramTls.Proofs.StepEffects

/-!
Limits of a configuration. Every value is within the limits that its option has,
whether it was set, filled in by default, or copied from a configuration that
was built before.
-/

namespace DatagramTls

namespace Limit

variable {limit : Limit}

theorem outside?_eq_none_iff {least greatest value : Nat} :
    limit.outside? least greatest value = none ↔
      least ≤ value ∧ value ≤ greatest := by
  simp [outside?]

theorem below?_eq_none_iff {least value : Nat} :
    limit.below? least value = none ↔ least ≤ value := by
  simp [below?]

theorem one_le_of_unopposed {value : UInt64}
    (unopposed : limit.below? 1 value.toNat = none) : 1 ≤ value :=
  UInt64.le_iff_toNat_le.mpr (below?_eq_none_iff.mp unopposed)

theorem shorterThan?_eq_none_iff {least value : Duration} :
    limit.shorterThan? least value = none ↔
      least.inNanoseconds ≤ value.inNanoseconds := by
  simp [shorterThan?]

end Limit

namespace Config

/-! Topic by topic: the defaults are within the limits, an option that nothing
speaks against leaves what is resolved within them, and so does reopening. -/

namespace Endpoint

structure WithinLimits (endpoint : Endpoint) : Prop where
  loggingTag : endpoint.loggingTag = "" ∨
    endpoint.loggingTag.toList.getLast? = some ' '

theorem spaced_spacedTag (tag : String) :
    spacedTag tag = "" ∨ (spacedTag tag).toList.getLast? = some ' ' := by
  unfold spacedTag
  cases ending : tag.toList.getLast? with
  | none =>
      left
      exact String.toList_eq_nil_iff.mp (List.getLast?_eq_none_iff.mp ending)
  | some last =>
      right
      dsimp only
      split
      case isTrue space => rw [ending, space]
      case isFalse => simp

theorem withinLimits_resolve (options : Options) :
    options.resolve.WithinLimits where
  loggingTag := spaced_spacedTag _

end Endpoint

namespace Algorithms

def Preselects (preselected : Option (List CipherSuite)) : Prop :=
  ∀ suites ∈ preselected, suites ≠ [] ∧ .null ∉ suites

theorem preselects_of_unopposed {options : DatagramTls.Options}
    {listing : Listing} {suites : List CipherSuite}
    (unopposed : options.suiteListObjection? listing suites = none) :
    Preselects (some suites) := by
  rintro _ ⟨⟩
  obtain ⟨nonempty, protecting, _⟩ :=
    DatagramTls.Options.suiteListObjection?_eq_none_iff.mp unopposed
  exact ⟨nonempty, protecting⟩

theorem Preselects.store {options : DatagramTls.Options} {setting : Setting}
    (preselects : Preselects options.algorithms.preselected)
    (unopposed : options.algorithmsObjection? setting = none) :
    Preselects (options.algorithms.store setting).preselected := by
  cases setting with
  | preselected suites => exact preselects_of_unopposed unopposed
  | suites _ | recommendedSuitesOnly _ | schemes _ | recommendedSchemesOnly _
  | groups _ | recommendedGroupsOnly _ => exact preselects

end Algorithms

namespace Retransmission

structure WithinLimits (retransmission : Retransmission) : Prop where
  maxRetransmissions : 1 ≤ retransmission.maxRetransmissions

variable {options : Options}

theorem withinLimits_default : (Options.resolve {}).WithinLimits where
  maxRetransmissions := by decide

theorem WithinLimits.store {setting : Setting}
    (within : options.resolve.WithinLimits)
    (unopposed : Options.objection? setting = none) :
    (options.store setting).resolve.WithinLimits := by
  cases setting with
  | maxRetransmissions count =>
      exact ⟨UInt32.le_iff_toNat_le.mpr
        (Limit.below?_eq_none_iff.mp unopposed)⟩
  | timeout _ | extraForEcc _ | backoff _ | earlyStop _ =>
      exact ⟨within.maxRetransmissions⟩

end Retransmission

namespace Framing

structure WithinLimits (framing : Framing) : Prop where
  mtu_iff : framing.mtu.isSome = true ↔ framing.mtuLimit = none
  maxFragmentLengthCode : ∀ code ∈ framing.maxFragmentLengthCode,
    1 ≤ code ∧ code ≤ 4
  recordSizeLimit : ∀ limit ∈ framing.recordSizeLimit,
    64 ≤ limit ∧ limit ≤ 65535
  reassemblyLength : 1 ≤ framing.reassemblyLength

variable {options : Options}

theorem mtu_iff_resolve (options : Options) :
    options.resolve.mtu.isSome = true ↔ options.resolve.mtuLimit = none := by
  cases fixed : options.mtu <;> simp [Options.resolve, fixed]

theorem withinLimits_default : (Options.resolve {}).WithinLimits where
  mtu_iff := mtu_iff_resolve {}
  maxFragmentLengthCode := nofun
  recordSizeLimit := nofun
  reassemblyLength := by decide

theorem WithinLimits.store {setting : Setting}
    (within : options.resolve.WithinLimits)
    (unopposed : options.objection? setting = none) :
    (options.store setting).resolve.WithinLimits := by
  have mtu_iff := mtu_iff_resolve (options.store setting)
  cases setting with
  | mtu _ | mtuLimit _ | multiRecordMessages _ | multiHandshakeRecords _ =>
      exact { within with mtu_iff }
  | maxFragmentLengthCode code =>
      exact { within with
        maxFragmentLengthCode := by
          rintro _ ⟨⟩
          exact Limit.outside?_eq_none_iff.mp unopposed }
  | recordSizeLimit limit =>
      obtain ⟨least, greatest⟩ := Limit.outside?_eq_none_iff.mp unopposed
      exact { within with
        recordSizeLimit := by
          rintro _ ⟨⟩
          -- The bounds leave no more than 16 of the 32 bits.
          have same : limit.toUInt16.toNat = limit.toNat := by
            rw [UInt32.toNat_toUInt16]
            omega
          rw [UInt16.le_iff_toNat_le, UInt16.le_iff_toNat_le, same]
          exact ⟨least, greatest⟩ }
  | reassemblyLength length =>
      exact { within with
        reassemblyLength := Limit.one_le_of_unopposed unopposed }

theorem WithinLimits.reopen {framing : Framing}
    (within : framing.WithinLimits) : framing.reopen.resolve.WithinLimits :=
  { within with mtu_iff := mtu_iff_resolve framing.reopen }

end Framing

namespace Resources

structure WithinLimits (resources : Resources) : Prop where
  outboundBuffer : 1 ≤ resources.outboundBuffer
  maxConnections : 1 ≤ resources.maxConnections
  staleThreshold : (Duration.ofSeconds 1).inNanoseconds ≤
    resources.staleThreshold.inNanoseconds
  connectionThreads : 1 ≤ resources.connectionThreads
  receiverThreads : 1 ≤ resources.receiverThreads
  receiveBuffer : ∀ size ∈ resources.receiveBuffer, 1 ≤ size
  sendBuffer : ∀ size ∈ resources.sendBuffer, 1 ≤ size

variable {options : Options} {cores : UInt64}

theorem toNat_connectionThreads (countable : 6 * cores.toNat < UInt64.size) :
    (connectionThreadsPerCore * cores).toNat = 6 * cores.toNat := by
  rw [UInt64.toNat_mul]
  exact Nat.mod_eq_of_lt countable

theorem toNat_receiverThreads (countable : 6 * cores.toNat < UInt64.size) :
    ((cores + 1) / 2).toNat = (cores.toNat + 1) / 2 := by
  rw [UInt64.toNat_div, UInt64.toNat_add]
  change (cores.toNat + 1) % UInt64.size / 2 = _
  rw [Nat.mod_eq_of_lt]
  have many : 1 < UInt64.size := by decide
  omega

theorem withinLimits_default (one_le : 1 ≤ cores)
    (countable : 6 * cores.toNat < UInt64.size) :
    (Options.resolve {} cores).WithinLimits where
  outboundBuffer := (by decide : 1 ≤ defaultOutboundBuffer)
  maxConnections := (by decide : 1 ≤ defaultMaxConnections)
  staleThreshold := by
    change (Duration.ofSeconds 1).inNanoseconds ≤
      defaultStaleThreshold.inNanoseconds
    decide
  connectionThreads := by
    change 1 ≤ connectionThreadsPerCore * cores
    rw [UInt64.le_iff_toNat_le] at one_le ⊢
    rw [toNat_connectionThreads countable]
    change 1 ≤ cores.toNat at one_le
    change 1 ≤ 6 * cores.toNat
    omega
  receiverThreads := by
    change 1 ≤ (cores + 1) / 2
    rw [UInt64.le_iff_toNat_le] at one_le ⊢
    rw [toNat_receiverThreads countable]
    change 1 ≤ cores.toNat at one_le
    change 1 ≤ (cores.toNat + 1) / 2
    omega
  receiveBuffer := nofun
  sendBuffer := nofun

theorem WithinLimits.store {setting : Setting}
    (within : (options.resolve cores).WithinLimits)
    (unopposed : Options.objection? setting = none) :
    ((options.store setting).resolve cores).WithinLimits := by
  cases setting with
  | outboundBuffer capacity =>
      exact { within with
        outboundBuffer := Limit.one_le_of_unopposed unopposed }
  | deferredOutgoingMessages _ | deferredIncomingBytes _ =>
      exact { within with }
  | maxConnections count =>
      exact { within with
        maxConnections := Limit.one_le_of_unopposed unopposed }
  | staleThreshold threshold =>
      exact { within with
        staleThreshold := Limit.shorterThan?_eq_none_iff.mp unopposed }
  | connectionThreads count =>
      exact { within with
        connectionThreads := Limit.one_le_of_unopposed unopposed }
  | receiverThreads count =>
      exact { within with
        receiverThreads := Limit.one_le_of_unopposed unopposed }
  | receiveBuffer size =>
      exact { within with
        receiveBuffer := by
          rintro _ ⟨⟩
          exact Limit.one_le_of_unopposed unopposed }
  | sendBuffer size =>
      exact { within with
        sendBuffer := by
          rintro _ ⟨⟩
          exact Limit.one_le_of_unopposed unopposed }

end Resources

namespace Diagnostics

structure WithinLimits (diagnostics : Diagnostics) : Prop where
  healthInterval : ∀ interval ∈ diagnostics.healthInterval,
    (Duration.ofSeconds 1).inNanoseconds ≤ interval.inNanoseconds

variable {diagnostics : Diagnostics}

theorem WithinLimits.store {setting : Setting}
    (within : diagnostics.WithinLimits)
    (unopposed : objection? setting = none) :
    (diagnostics.store setting).WithinLimits := by
  cases setting with
  | healthInterval interval =>
      exact ⟨by
        rintro _ ⟨⟩
        exact Limit.shorterThan?_eq_none_iff.mp unopposed⟩
  | healthHandler _ | connectionListener _ => exact ⟨within.healthInterval⟩

end Diagnostics

namespace Resumption

structure WithinLimits (resumption : Resumption) : Prop where
  autoTimeout : ∀ timeout ∈ resumption.autoTimeout,
    Duration.oneMillisecond.inNanoseconds ≤ timeout.inNanoseconds
  verifyThreshold : resumption.verifyThreshold ≤ 100

theorem withinLimits_default (helloVerify : Bool) :
    (Options.resolve {} helloVerify).WithinLimits where
  autoTimeout := nofun
  verifyThreshold := by cases helloVerify <;> decide

theorem WithinLimits.store {options : DatagramTls.Options} {setting : Setting}
    {helloVerify : Bool}
    (within : (options.resumption.resolve helloVerify).WithinLimits)
    (unopposed : options.resumptionObjection? setting = none) :
    ((options.resumption.store setting).resolve helloVerify).WithinLimits := by
  cases setting with
  | autoTimeout timeout =>
      exact { within with
        autoTimeout := by
          rintro _ ⟨⟩
          exact Limit.shorterThan?_eq_none_iff.mp unopposed }
  | serverSessionId _ | verifier _ => exact { within with }
  | verifyThreshold percent =>
      exact { within with
        verifyThreshold := by
          change (if options.helloVerify.enabled = some false then _ else _) =
            none at unopposed
          split at unopposed
          case isTrue => cases unopposed
          case isFalse =>
              have bounds := Limit.outside?_eq_none_iff.mp unopposed
              cases helloVerify with
              | false => exact (by decide : (0 : UInt8) ≤ 100)
              | true => exact UInt8.le_iff_toNat_le.mpr bounds.2 }

theorem WithinLimits.reopen {config : Config}
    (within : config.resumption.WithinLimits) (helloVerify : Bool) :
    (config.reopenResumption.resolve helloVerify).WithinLimits where
  autoTimeout := within.autoTimeout
  verifyThreshold := by
    cases helloVerify with
    | false => exact (by decide : (0 : UInt8) ≤ 100)
    | true =>
        change (whenever _ config.resumption.verifyThreshold).getD
          defaultVerifyThreshold ≤ 100
        unfold whenever
        split
        · exact within.verifyThreshold
        · decide

end Resumption

namespace HelloVerify

structure WithinLimits (helloVerify : HelloVerify) : Prop where
  version : ∀ version ∈ helloVerify.version,
    version = .dtls10 ∨ version = .dtls12

theorem WithinLimits.store {options : DatagramTls.Options} {setting : Setting}
    (within : options.helloVerify.resolve.WithinLimits)
    (unopposed : options.helloVerifyObjection? setting = none) :
    (options.helloVerify.store setting).resolve.WithinLimits := by
  cases setting with
  | enabled _ | enabledForPsk _ => exact ⟨within.version⟩
  | version version =>
      refine ⟨?_⟩
      rintro _ ⟨⟩
      cases version with
      | dtls10 => exact Or.inl rfl
      | dtls12 => exact Or.inr rfl
      | dtls13 | unknown _ => cases unopposed

end HelloVerify

end Config

/-! All topics -/

structure Config.WithinLimits (config : Config) : Prop where
  endpoint : config.endpoint.WithinLimits
  preselected : Algorithms.Preselects config.algorithms.preselected
  retransmission : config.retransmission.WithinLimits
  framing : config.framing.WithinLimits
  resources : config.resources.WithinLimits
  diagnostics : config.diagnostics.WithinLimits
  resumption : config.resumption.WithinLimits
  helloVerify : config.helloVerify.WithinLimits

namespace Options

/-- What the options resolve to is within the limits, whatever the rest of the
configuration. -/
structure WithinLimits (options : Options) : Prop where
  preselected :
    Config.Algorithms.Preselects options.algorithms.preselected
  retransmission : options.retransmission.resolve.WithinLimits
  framing : options.framing.resolve.WithinLimits
  resources : ∀ cores : UInt64, 1 ≤ cores → 6 * cores.toNat < UInt64.size →
    (options.resources.resolve cores).WithinLimits
  diagnostics : options.diagnostics.WithinLimits
  resumption : ∀ helloVerify,
    (options.resumption.resolve helloVerify).WithinLimits
  helloVerify : options.helloVerify.resolve.WithinLimits

theorem withinLimits_unset : unset.WithinLimits where
  preselected := nofun
  retransmission := Config.Retransmission.withinLimits_default
  framing := Config.Framing.withinLimits_default
  resources := fun _ => Config.Resources.withinLimits_default
  diagnostics := ⟨nofun⟩
  resumption := Config.Resumption.withinLimits_default
  helloVerify := ⟨nofun⟩

namespace WithinLimits

variable {options : Options}

theorem store {setting : Setting} (within : options.WithinLimits)
    (unopposed : options.objection? setting = none) :
    (options.store setting).WithinLimits := by
  cases setting with
  | endpoint _ | role _ | credentials _ | replay _ | extensions _ =>
      exact { within with }
  | algorithms setting =>
      exact { within with preselected := within.preselected.store unopposed }
  | retransmission setting =>
      exact { within with
        retransmission := within.retransmission.store unopposed }
  | framing setting =>
      exact { within with framing := within.framing.store unopposed }
  | resources setting =>
      exact { within with
        resources := fun cores one_le countable =>
          (within.resources cores one_le countable).store unopposed }
  | diagnostics setting =>
      exact { within with diagnostics := within.diagnostics.store unopposed }
  | resumption setting =>
      exact { within with
        resumption := fun helloVerify =>
          (within.resumption helloVerify).store unopposed }
  | helloVerify setting =>
      exact { within with helloVerify := within.helloVerify.store unopposed }

theorem resolve (within : options.WithinLimits) {platform : Platform}
    (countable : 6 * platform.cores.toNat < UInt64.size)
    (suites : List CipherSuite) (schemes : List Scheme)
    (groups : List Group) :
    (options.resolve platform suites schemes groups).WithinLimits where
  endpoint := Config.Endpoint.withinLimits_resolve _
  preselected := within.preselected
  retransmission := within.retransmission
  framing := within.framing
  resources := within.resources _ platform.one_le_cores countable
  diagnostics := within.diagnostics
  resumption := within.resumption _
  helloVerify := within.helloVerify

end WithinLimits

end Options

/-- Reopening goes past the objections, but what it stores was within the
limits before. -/
theorem Config.WithinLimits.reopen {config : Config}
    (within : config.WithinLimits) : config.reopen.WithinLimits where
  preselected := within.preselected
  retransmission := within.retransmission
  framing := within.framing.reopen
  resources := fun _ _ _ => within.resources
  diagnostics := within.diagnostics
  resumption := fun helloVerify => within.resumption.reopen helloVerify
  helloVerify := ⟨within.helloVerify.version⟩

/-! Cores -/

namespace Platform

variable {cores : UInt64}

theorem toNat_cores_ofCores (cores : UInt64) (provider : Provider) :
    (ofCores cores provider).cores.toNat = max 1 cores.toNat := by
  unfold ofCores
  split
  case isTrue some =>
      have some : 1 ≤ cores.toNat := UInt64.le_iff_toNat_le.mp some
      change cores.toNat = _
      omega
  case isFalse none =>
      rw [UInt64.le_iff_toNat_le] at none
      change ¬1 ≤ cores.toNat at none
      change 1 = _
      omega

theorem countable_ofCores (countable : 6 * cores.toNat < UInt64.size)
    (provider : Provider) :
    6 * (ofCores cores provider).cores.toNat < UInt64.size := by
  have few : 6 * 1 < UInt64.size := by decide
  rw [toNat_cores_ofCores]
  omega

end Platform

/-! Sessions -/

namespace Session

def Target.cores (hostCores : UInt64) : Target → UInt64
  | .host => hostCores
  | .given platform => platform.cores

theorem countable_platform {session : Session} {target : Target}
    (countable : 6 * (target.cores session.hostCores).toNat < UInt64.size) :
    6 * (session.platform target).cores.toNat < UInt64.size := by
  cases target with
  | given platform => exact countable
  | host => exact Platform.countable_ofCores countable _

section Run

variable {hostCores : UInt64} {steps : List Step}

theorem withinLimits_run
    (countable : ∀ target, .build target ∈ steps →
      6 * (target.cores hostCores).toNat < UInt64.size) :
    (run { hostCores } steps).options.WithinLimits ∧
      ∀ config ∈ (run { hostCores } steps).configs, config.WithinLimits := by
  apply effect_induction (motive := fun options configs =>
    options.WithinLimits ∧ ∀ config ∈ configs, config.WithinLimits)
  · exact ⟨Options.withinLimits_unset, List.forall_mem_nil _⟩
  · rintro session rfl ⟨within, former⟩ step member options configs effect
    cases effect with
    | kept => exact ⟨within, former⟩
    | stored _ unopposed => exact ⟨within.store unopposed, former⟩
    | renewed => exact ⟨Options.withinLimits_unset, former⟩
    | built builds =>
        refine ⟨within, List.forall_mem_append.mpr ⟨former, ?_⟩⟩
        rw [List.forall_mem_singleton, builds.resolved]
        exact within.resolve (countable_platform (countable _ member)) _ _ _
    | reopened found => exact ⟨(former _ found).reopen, former⟩

/-- The back-off starts after half of the repetitions of a configuration. -/
def Halves (configs : List Config) (backoff : UInt32) : Prop :=
  ∃ config ∈ configs, backoff = config.retransmission.maxRetransmissions / 2

theorem byValue_of_retransmission {request : Request}
    {setting : Config.Retransmission.Setting}
    (named : request.setting = .ok (.retransmission setting)) :
    request = .byValue (.retransmission setting) := by
  cases request with
  | byValue given =>
      cases named
      rfl
  | byName names =>
      cases names with
      | suites names | preselected names | schemes names | groups names
      | handshakeMode name =>
          obtain ⟨_, _, impossible⟩ := map_eq_ok_iff.mp named
          cases impossible

theorem Halves.append {configs : List Config} {backoff : UInt32}
    (halves : Halves configs backoff) (others : List Config) :
    Halves (configs ++ others) backoff := by
  obtain ⟨config, member, half⟩ := halves
  exact ⟨config, List.mem_append_left others member, half⟩

theorem halves_run
    (unset : ∀ count,
      .request (.byValue (.retransmission (.backoff count))) ∉ steps) :
    (∀ backoff ∈ (run { hostCores } steps).options.retransmission.backoff,
        Halves (run { hostCores } steps).configs backoff) ∧
      ∀ config ∈ (run { hostCores } steps).configs,
        Halves (run { hostCores } steps).configs
          config.retransmission.backoff := by
  apply effect_induction (motive := fun options configs =>
    (∀ backoff ∈ options.retransmission.backoff, Halves configs backoff) ∧
      ∀ config ∈ configs, Halves configs config.retransmission.backoff)
  · exact ⟨nofun, List.forall_mem_nil _⟩
  · rintro session _ ⟨chosen, former⟩ step member options configs effect
    cases effect with
    | kept => exact ⟨chosen, former⟩
    | @stored request setting named _ =>
        have same : (session.options.store setting).retransmission.backoff =
            session.options.retransmission.backoff := by
          cases setting with
          | retransmission setting =>
              rw [byValue_of_retransmission named] at member
              cases setting with
              | backoff count => exact absurd member (unset count)
              | timeout _ | extraForEcc _ | maxRetransmissions _
              | earlyStop _ => rfl
          | endpoint _ | role _ | credentials _ | algorithms _ | framing _
          | resources _ | diagnostics _ | resumption _ | helloVerify _
          | replay _ | extensions _ => rfl
        rw [same]
        exact ⟨chosen, former⟩
    | renewed => exact ⟨nofun, former⟩
    | @built target config builds =>
        have latest : Halves (session.configs ++ [config])
            config.retransmission.backoff := by
          cases set : session.options.retransmission.backoff with
          | none =>
              -- Unset, it is half of what this configuration itself repeats.
              refine ⟨config, by simp, ?_⟩
              rw [builds.retransmission_eq]
              simp [Config.Retransmission.Options.resolve, set]
          | some backoff =>
              have same : config.retransmission.backoff = backoff := by
                rw [builds.retransmission_eq]
                simp [Config.Retransmission.Options.resolve, set]
              rw [same]
              exact (chosen backoff set).append _
        constructor
        · intro backoff set
          exact (chosen backoff set).append _
        · rw [List.forall_mem_append, List.forall_mem_singleton]
          exact ⟨fun other built => (former other built).append _, latest⟩
    | reopened found =>
        refine ⟨?_, former⟩
        rintro _ ⟨⟩
        exact former _ found

/-- Whatever is built in a session is within its limits. A back-off that no
request sets starts after half of the repetitions that some configuration of the
session has. -/
theorem withinLimits_of_mem_configs (hostCores : UInt64) (steps : List Step)
    (countable : ∀ target, .build target ∈ steps →
      6 * (target.cores hostCores).toNat < UInt64.size) {config : Config}
    (built : config ∈ (run { hostCores } steps).configs) :
    config.WithinLimits ∧
      ((∀ count,
          .request (.byValue (.retransmission (.backoff count))) ∉ steps) →
        ∃ other ∈ (run { hostCores } steps).configs,
          config.retransmission.backoff =
            other.retransmission.maxRetransmissions / 2) :=
  ⟨(withinLimits_run countable).2 config built,
    fun unset => (halves_run unset).2 config built⟩

/-- A back-off that outlives the number of repetitions that it came from, in a
session on a host without cores. -/
theorem withinLimits_of_mem_configs_reopened :
    let steps : List Step :=
      [.request (.byValue (.credentials (.pskStore ⟨⟨0⟩, false⟩))),
        .request (.byValue (.retransmission (.maxRetransmissions 5))),
        .build .host,
        .reopen 0,
        .request (.byValue (.retransmission (.maxRetransmissions 0))),
        .request (.byValue (.retransmission (.maxRetransmissions 9))),
        .build (.given (.ofCores 4 .standard))]
    ∃ config ∈ (run { hostCores := 0 } steps).configs,
      config.retransmission.maxRetransmissions = 9 ∧
      config.retransmission.backoff = 2 ∧
      config.WithinLimits ∧
      ∃ other ∈ (run { hostCores := 0 } steps).configs,
        config.retransmission.backoff =
          other.retransmission.maxRetransmissions / 2 := by
  intro steps
  have member := List.mem_of_getElem?
    (show (run { hostCores := 0 } steps).configs[1]? = some _ from rfl)
  have within := withinLimits_of_mem_configs 0 steps (by
    intro target build
    have targets : target = .host ∨
        target = .given (.ofCores 4 .standard) := by
      simpa [steps] using build
    rcases targets with rfl | rfl <;> decide) member
  exact ⟨_, member, rfl, rfl, within.1, within.2 (by simp [steps])⟩

end Run

end Session

end DatagramTls
