import DoudouRegistry.Time

/-!
# The memberlist configuration that `newConf` builds

`newConf` starts from `memberlist.DefaultWANConfig()` and overwrites it from the
process environment, every option falling back to a default of the `config`
package. Neither package is part of the sources: their constants, together with
the toolkit's parsers `cast.ToIntE` and `cast.ToBoolE` and `strings.ToUpper`,
are the fields of `Packages`, and every law below holds for all of them.

Eight options are durations. Each takes its default first, then reads a
non-blank value as an integer count of its unit or, failing that, as a
`time.ParseDuration` string. The weight interval is read only while the weight
option is not positive. The integer reading multiplies in 64 bits, so it wraps
exactly where the duration string is refused.
-/

namespace DoudouRegistry.NewConf

open Strings Time

/-- The environment variables the registry reads, under the `config` package's names. -/
inductive EnvVariable
  | gddServiceName | gddPort | gddRouteRootPath | gddLogLevel
  | gddMemSeed | gddMemName | gddMemHost | gddMemPort
  | gddMemIndirectChecks | gddMemSuspicionMult | gddMemGossipNodes
  | gddMemLogDisable | gddMemWeight
  | gddMemDeadTimeout | gddMemSyncInterval | gddMemReclaimTimeout
  | gddMemProbeInterval | gddMemProbeTimeout | gddMemGossipInterval
  | gddMemWeightInterval | gddMemTCPTimeout
  deriving DecidableEq, Repr

/-- The process environment: what `Load()` returns for every variable, the empty
string when it is unset. -/
abbrev Env := EnvVariable → String

/-- The defaults of the `config` package that the registry reads. -/
structure Defaults where
  defaultGddServiceName : String
  defaultGddPort : Int
  defaultGddRouteRootPath : String
  defaultGddLogLevel : String
  defaultGddMemSeed : String
  defaultGddMemPort : Int
  defaultGddMemIndirectChecks : Int
  defaultGddMemSuspicionMult : Int
  defaultGddMemGossipNodes : Int
  defaultGddMemLogDisable : Bool
  defaultGddMemWeight : Int
  defaultGddMemDeadTimeout : String
  defaultGddMemSyncInterval : String
  defaultGddMemReclaimTimeout : String
  defaultGddMemProbeInterval : String
  defaultGddMemProbeTimeout : String
  defaultGddMemGossipInterval : String
  defaultGddMemWeightInterval : Duration
  defaultGddMemTCPTimeout : String

/-- Where `logutils.LevelFilter` sends the memberlist's log lines. -/
inductive LogWriter
  | discard
  | logrus
  deriving DecidableEq, Repr

/-- The `logutils.LevelFilter` that `newConf` installs as the log output. -/
structure LevelFilter where
  levels : List String
  minLevel : String
  writer : LogWriter
  deriving DecidableEq, Repr

/-- The fields of `memberlist.Config` that the registry sets or reads. -/
structure Config where
  name : String
  bindPort : Int
  advertiseAddr : String
  advertisePort : Int
  indirectChecks : Int
  retransmitMult : Int
  suspicionMult : Int
  pushPullInterval : Duration
  probeInterval : Duration
  probeTimeout : Duration
  gossipNodes : Int
  gossipInterval : Duration
  gossipToTheDeadTime : Duration
  deadNodeReclaimTime : Duration
  tcpTimeout : Duration
  weightInterval : Duration
  logOutput : LevelFilter
  deriving DecidableEq, Repr

/-- What the registry takes from packages outside the sources. -/
structure Packages where
  envName : EnvVariable → String
  defaults : Defaults
  defaultWANConfig : Config
  toIntE : String → Option Int
  toBoolE : String → Option Bool
  toUpper : String → String

section NewConf

variable (p : Packages) (env : Env)

/-- An `int` option: the toolkit's reading of the value, or the default. -/
def intOption (default : Int) (value : String) : Int := (p.toIntE value).getD default

/-- A duration option: the default, replaced by a non-blank value read as an
integer count of `unit` or else as a duration string. -/
def durationOption (default unit : Duration) (value : String) : Duration :=
  if isNotEmpty value then
    match atoi value with
    | some n => ofInt n * unit
    | none => (parseDuration value).getD default
  else default

/-- A default duration as `time.ParseDuration` reads it, zero beside its error. -/
def parseDefault (value : String) : Duration := (parseDuration value).getD 0

/-- The level filter's minimum level: the configured one upper-cased, with `ERROR`
and `WARNING` shortened to the names `logutils` knows. -/
def minLevel : String :=
  if isNotEmpty (env .gddLogLevel) then
    let level := p.toUpper (env .gddLogLevel)
    if level = "ERROR" then "ERR" else if level = "WARNING" then "WARN" else level
  else p.defaults.defaultGddLogLevel

/-- The memberlist's log output: discarded when the log is disabled. -/
def logOutput : LevelFilter where
  levels := ["DEBUG", "WARN", "ERR", "INFO"]
  minLevel := minLevel p env
  writer :=
    if (p.toBoolE (env .gddMemLogDisable)).getD p.defaults.defaultGddMemLogDisable then .discard
    else .logrus

/-- The weight option; a positive weight pins the node's weight. -/
def weight : Int := intOption p p.defaults.defaultGddMemWeight (env .gddMemWeight)

/-- The weight interval: zero while the weight is pinned, otherwise a
millisecond duration option whose default is already a duration. -/
def weightInterval : Duration :=
  if weight p env > 0 then 0
  else durationOption p.defaults.defaultGddMemWeightInterval millisecond (env .gddMemWeightInterval)

/-- The memberlist port, used both to bind and to advertise. -/
def memport : Int := intOption p p.defaults.defaultGddMemPort (env .gddMemPort)

/-- The advertised address: the configured host, a leading dot expanded against
the host name. -/
def advertiseAddr (hostname : String) : String :=
  let memhost := env .gddMemHost
  if isNotEmpty memhost then
    if memhost.startsWith "." then hostname ++ memhost else memhost
  else p.defaultWANConfig.advertiseAddr

/-- `newConf`: the WAN defaults, overwritten from the environment. -/
def newConf (hostname : String) : Config :=
  { p.defaultWANConfig with
    indirectChecks := intOption p p.defaults.defaultGddMemIndirectChecks (env .gddMemIndirectChecks)
    logOutput := logOutput p env
    gossipToTheDeadTime :=
      durationOption (parseDefault p.defaults.defaultGddMemDeadTimeout) second (env .gddMemDeadTimeout)
    pushPullInterval :=
      durationOption (parseDefault p.defaults.defaultGddMemSyncInterval) second (env .gddMemSyncInterval)
    deadNodeReclaimTime :=
      durationOption (parseDefault p.defaults.defaultGddMemReclaimTimeout) second
        (env .gddMemReclaimTimeout)
    probeInterval :=
      durationOption (parseDefault p.defaults.defaultGddMemProbeInterval) second
        (env .gddMemProbeInterval)
    probeTimeout :=
      durationOption (parseDefault p.defaults.defaultGddMemProbeTimeout) second (env .gddMemProbeTimeout)
    suspicionMult := intOption p p.defaults.defaultGddMemSuspicionMult (env .gddMemSuspicionMult)
    gossipNodes := intOption p p.defaults.defaultGddMemGossipNodes (env .gddMemGossipNodes)
    gossipInterval :=
      durationOption (parseDefault p.defaults.defaultGddMemGossipInterval) millisecond
        (env .gddMemGossipInterval)
    weightInterval := weightInterval p env
    tcpTimeout :=
      durationOption (parseDefault p.defaults.defaultGddMemTCPTimeout) second (env .gddMemTCPTimeout)
    name := if isNotEmpty (env .gddMemName) then env .gddMemName else p.defaultWANConfig.name
    bindPort := memport p env
    advertisePort := memport p env
    advertiseAddr := advertiseAddr p env hostname }

end NewConf

/-! ## The eight duration options -/

/-- The duration options of `newConf`. -/
inductive DurationOption
  | deadTimeout | syncInterval | reclaimTimeout | probeInterval | probeTimeout
  | gossipInterval | weightInterval | tcpTimeout
  deriving DecidableEq, Repr

namespace DurationOption

/-- The variable an option is read from. -/
def key : DurationOption → EnvVariable
  | deadTimeout => .gddMemDeadTimeout
  | syncInterval => .gddMemSyncInterval
  | reclaimTimeout => .gddMemReclaimTimeout
  | probeInterval => .gddMemProbeInterval
  | probeTimeout => .gddMemProbeTimeout
  | gossipInterval => .gddMemGossipInterval
  | weightInterval => .gddMemWeightInterval
  | tcpTimeout => .gddMemTCPTimeout

/-- The unit of an option's integer form, in nanoseconds: milliseconds for the
gossip and weight intervals, seconds for the others. -/
def unit : DurationOption → Nat
  | gossipInterval | weightInterval => 1000000
  | _ => 1000000000

/-- The suffix that names an option's unit in a duration string. -/
def suffix : DurationOption → List Char
  | gossipInterval | weightInterval => ['m', 's']
  | _ => ['s']

/-- The configuration field an option sets. -/
def field : DurationOption → Config → Duration
  | deadTimeout => Config.gossipToTheDeadTime
  | syncInterval => Config.pushPullInterval
  | reclaimTimeout => Config.deadNodeReclaimTime
  | probeInterval => Config.probeInterval
  | probeTimeout => Config.probeTimeout
  | gossipInterval => Config.gossipInterval
  | weightInterval => Config.weightInterval
  | tcpTimeout => Config.tcpTimeout

/-- The duration an option keeps when its value is blank or unreadable. -/
def default (p : Packages) : DurationOption → Duration
  | deadTimeout => parseDefault p.defaults.defaultGddMemDeadTimeout
  | syncInterval => parseDefault p.defaults.defaultGddMemSyncInterval
  | reclaimTimeout => parseDefault p.defaults.defaultGddMemReclaimTimeout
  | probeInterval => parseDefault p.defaults.defaultGddMemProbeInterval
  | probeTimeout => parseDefault p.defaults.defaultGddMemProbeTimeout
  | gossipInterval => parseDefault p.defaults.defaultGddMemGossipInterval
  | weightInterval => p.defaults.defaultGddMemWeightInterval
  | tcpTimeout => parseDefault p.defaults.defaultGddMemTCPTimeout

/-- Whether `newConf` reads an option at all: the weight interval only while the
weight is not pinned. -/
def Read (p : Packages) (env : Env) (o : DurationOption) : Prop :=
  o = weightInterval → weight p env ≤ 0

/-- Every duration option's suffix names its unit. -/
theorem unitName (o : DurationOption) : UnitName o.suffix o.unit := by
  cases o <;> exact ⟨rfl, rfl, by decide⟩

/-- No duration option is the weight option. -/
theorem key_ne_weight (o : DurationOption) : o.key ≠ .gddMemWeight := by
  cases o <;> decide

end DurationOption

/-- Every option that `newConf` reads is its duration option over its own variable. -/
theorem field_newConf (p : Packages) (env : Env) (hostname : String) (o : DurationOption)
    (read : o.Read p env) :
    o.field (newConf p env hostname) = durationOption (o.default p) (ofInt o.unit) (env o.key) := by
  cases o <;> try rfl
  simp only [DurationOption.Read, forall_const] at read
  simp only [DurationOption.field, newConf, weightInterval, if_neg (Int.not_lt.mpr read)]
  rfl

/-- A duration option's integer form: the 64-bit product, wrapped when it does not fit. -/
theorem durationOption_integer {default : Duration} {unit : Nat} {t : String} {n : Int}
    (accepted : atoi t = some n) :
    durationOption default (ofInt unit) t = ofInt (n * unit) := by
  simp [durationOption, isNotEmpty, isEmpty_of_atoi accepted, accepted, ofInt, BitVec.ofInt_mul]

/-- Digits followed by a letter are not a number. -/
theorem decimalValue_append_letter {acc : Nat} {digits rest : List Char} {c : Char}
    (letter : c.isDigit = false) : decimalValue acc (digits ++ c :: rest) = none := by
  induction digits generalizing acc with
  | nil => simp [decimalValue, letter]
  | cons d ds ih =>
    by_cases digit : d.isDigit <;> simp [decimalValue, digit, ih]

/-- A duration option's suffixed form: the product when it fits in 64 bits, the
default otherwise. -/
theorem durationOption_suffixed {default : Duration} {unit : Nat} {t : String} {u : List Char}
    {n : Int} (accepted : atoi t = some n) (name : UnitName u unit) :
    durationOption default (ofInt unit) (t ++ String.mk u) =
      if FitsInt64 (n * unit) then ofInt (n * unit) else default := by
  have blank : isEmpty (t ++ String.mk u) = false := by
    simp [isEmpty_of_atoi accepted]
  have rejected : atoi (t ++ String.mk u) = none := by
    obtain ⟨c, cs, letters⟩ := List.exists_cons_of_ne_nil name.nonempty
    have letter := name.head_not_digit c (by simp [letters])
    have nonempty : t.data ≠ [] := by
      rintro empty
      simp [atoi, empty, splitSign, unsignedValue] at accepted
    simp [atoi, splitSign_append nonempty, letters, unsignedValue,
      decimalValue_append_letter letter]
  rw [durationOption, isNotEmpty, blank, Bool.not_false, if_pos rfl, rejected,
    parseDuration_integer_unit accepted name]
  split_ifs <;> rfl

/-- Setting a duration option leaves the weight as it was. -/
theorem weight_update (p : Packages) (env : Env) (o : DurationOption) (value : String) :
    weight p (Function.update env o.key value) = weight p env := by
  simp [weight, Function.update_noteq (DurationOption.key_ne_weight o).symm]

/-- An integer that fits in 64 bits comes back from its bits unchanged. -/
theorem toInt_ofInt_of_fits {z : Int} (fits : FitsInt64 z) : (ofInt z).toInt = z := by
  rw [ofInt, BitVec.toInt_ofInt, Int.bmod_def]
  unfold FitsInt64 at fits
  split <;> omega

/-- The two encodings of a duration option that `newConf` reads. The integer
form configures the product of the value and the option's unit in 64 bits,
wrapped modulo `2^64`. The suffixed form configures the same product when it
fits in 64 bits, and then it holds exactly the product, and the option's
default when it does not. -/
theorem duration_option_integer_and_suffixed_forms (p : Packages) (env : Env)
    (hostname t : String) (o : DurationOption) (n : Int)
    (accepted : atoi t = some n) (read : o.Read p env) :
    o.field (newConf p (Function.update env o.key t) hostname) = ofInt (n * o.unit) ∧
      o.field (newConf p (Function.update env o.key (t ++ String.mk o.suffix)) hostname) =
        (if FitsInt64 (n * o.unit) then ofInt (n * o.unit) else o.default p) ∧
      (FitsInt64 (n * o.unit) → (ofInt (n * o.unit)).toInt = n * o.unit) := by
  have stillRead (value : String) : o.Read p (Function.update env o.key value) := by
    simpa [DurationOption.Read, weight_update] using read
  refine ⟨?_, ?_, toInt_ofInt_of_fits⟩
  · rw [field_newConf p _ hostname o (stillRead t), Function.update_same,
      durationOption_integer accepted]
  · rw [field_newConf p _ hostname o (stillRead _), Function.update_same,
      durationOption_suffixed accepted o.unitName]

/-- Packages modelled from the spec: the variable names its configuration surface
lists, each behind the `GDD_` prefix of the `config` package's names, and the
defaults it gives (the empty string and zero where it names none); Go's own
parsers in the toolkit's place, with `strings.ToUpper` on ASCII letters, which
is all the level names hold; and WAN defaults equal to those defaults, the node
name being the host name `host`. -/
def specPackages : Packages where
  envName
    | .gddServiceName => "GDD_SERVICE_NAME" | .gddPort => "GDD_PORT"
    | .gddRouteRootPath => "GDD_ROUTE_ROOT_PATH" | .gddLogLevel => "GDD_LOG_LEVEL"
    | .gddMemSeed => "GDD_MEM_SEED" | .gddMemName => "GDD_MEM_NAME"
    | .gddMemHost => "GDD_MEM_HOST" | .gddMemPort => "GDD_MEM_PORT"
    | .gddMemIndirectChecks => "GDD_MEM_INDIRECT_CHECKS"
    | .gddMemSuspicionMult => "GDD_MEM_SUSPICION_MULT"
    | .gddMemGossipNodes => "GDD_MEM_GOSSIP_NODES"
    | .gddMemLogDisable => "GDD_MEM_LOG_DISABLE" | .gddMemWeight => "GDD_MEM_WEIGHT"
    | .gddMemDeadTimeout => "GDD_MEM_DEAD_TIMEOUT"
    | .gddMemSyncInterval => "GDD_MEM_SYNC_INTERVAL"
    | .gddMemReclaimTimeout => "GDD_MEM_RECLAIM_TIMEOUT"
    | .gddMemProbeInterval => "GDD_MEM_PROBE_INTERVAL"
    | .gddMemProbeTimeout => "GDD_MEM_PROBE_TIMEOUT"
    | .gddMemGossipInterval => "GDD_MEM_GOSSIP_INTERVAL"
    | .gddMemWeightInterval => "GDD_MEM_WEIGHT_INTERVAL"
    | .gddMemTCPTimeout => "GDD_MEM_TCP_TIMEOUT"
  defaults :=
    { defaultGddServiceName := "", defaultGddPort := 0, defaultGddRouteRootPath := "",
      defaultGddLogLevel := "", defaultGddMemSeed := "", defaultGddMemPort := 7946,
      defaultGddMemIndirectChecks := 3, defaultGddMemSuspicionMult := 4,
      defaultGddMemGossipNodes := 3, defaultGddMemLogDisable := false, defaultGddMemWeight := 0,
      defaultGddMemDeadTimeout := "30s", defaultGddMemSyncInterval := "30s",
      defaultGddMemReclaimTimeout := "0", defaultGddMemProbeInterval := "1s",
      defaultGddMemProbeTimeout := "500ms", defaultGddMemGossipInterval := "200ms",
      defaultGddMemWeightInterval := 0, defaultGddMemTCPTimeout := "10s" }
  defaultWANConfig :=
    { name := "host", bindPort := 7946, advertiseAddr := "", advertisePort := 7946,
      indirectChecks := 3, retransmitMult := 0, suspicionMult := 4,
      pushPullInterval := 30 * second, probeInterval := second, probeTimeout := 500 * millisecond,
      gossipNodes := 3, gossipInterval := 200 * millisecond, gossipToTheDeadTime := 30 * second,
      deadNodeReclaimTime := 0, tcpTimeout := 10 * second, weightInterval := 0,
      logOutput := ⟨[], "", .logrus⟩ }
  toIntE := atoi
  toBoolE := parseBool
  toUpper := String.map Char.toUpper

/-- The weight interval, read while the weight is not pinned, set to `50` and to `50ms`. -/
theorem weight_interval_fifty_milliseconds :
    atoi "50" = some 50 ∧ DurationOption.weightInterval.Read specPackages (fun _ => "") ∧
      ((newConf specPackages (Function.update (fun _ => "") .gddMemWeightInterval "50")
          "").weightInterval = ofInt (50 * 1000000) ∧
        (newConf specPackages (Function.update (fun _ => "") .gddMemWeightInterval ("50" ++ "ms"))
          "").weightInterval =
          (if FitsInt64 (50 * 1000000) then ofInt (50 * 1000000) else 0) ∧
        (FitsInt64 (50 * 1000000) → (ofInt (50 * 1000000)).toInt = 50 * 1000000)) :=
  have accepted : atoi "50" = some 50 := by decide
  have read : DurationOption.weightInterval.Read specPackages (fun _ => "") := fun _ => by decide
  ⟨accepted, read, duration_option_integer_and_suffixed_forms specPackages (fun _ => "") "" "50"
    .weightInterval 50 accepted read⟩

/-- `GDD_MEM_PROBE_INTERVAL` set to `9223372037`: the integer form wraps to a
negative interval, while `9223372037s` is refused and keeps the one-second default. -/
theorem probe_interval_integer_form_wraps :
    (newConf specPackages (Function.update (fun _ => "") .gddMemProbeInterval "9223372037") "").probeInterval.toInt < 0 ∧
      (newConf specPackages (Function.update (fun _ => "") .gddMemProbeInterval "9223372037s")
        "").probeInterval = second := by
  decide

end DoudouRegistry.NewConf
