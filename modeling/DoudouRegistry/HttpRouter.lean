import DoudouRegistry.Facade

/-!
# The HTTP server: its middleware chain and its routes

`NewHttpRouterSrv` starts the middleware list from the configuration,
`AddMiddleware` appends to it, `PreMiddleware` puts middlewares in front and
`AddRoute` collects the business routes. `Run` puts the Prometheus middleware in
front when the management routes are on, registers those routes and the debug
routes behind their own three middlewares, appends `recovery`, and registers
every business route, and the not-found and method-not-allowed handlers, behind
the whole list. `newHttpServer` reads the listening address and the timeouts.

Middlewares are told apart by name: what one does to a request is outside this
model. A handler wrapped by the loop `for i := len(mws) - 1; i >= 0; i--` is the
term `Chain`, its middlewares from the outside in around what it ends in. The
toolkit's `ToBoolOrDefault` and `LoadOrDefault`, the two path prefixes and the
route lists of the management packages are not in the source and are parameters.
-/

namespace DoudouRegistry.HttpRouter

open Strings NewConf Time

/-- The middlewares the server puts in its chains, and the user's own. -/
inductive Middleware (User : Type)
  | tracing | metrics | gzip | log | requestId | proxyHeaders | rest
  | prometheus | recovery | cors | basicAuth
  | user (u : User)
  deriving DecidableEq, Repr

/-- What a route ends in: its `HandlerFunc`, or one of the server's own handlers. -/
inductive Endpoint (H : Type)
  | func (h : H)
  | statsviz
  | pprof
  | notFound
  | methodNotAllowed
  deriving DecidableEq, Repr

/-- `model.Route`; its `HandlerFunc` may be nil. -/
structure Route (H : Type) where
  name : String
  method : String
  pattern : String
  handlerFunc : Option (Endpoint H)
  deriving DecidableEq, Repr

/-- A handler behind its middlewares, the outermost first. -/
inductive Chain (M E : Type)
  | core (e : E)
  | wrap (m : M) (inner : Chain M E)
  deriving DecidableEq, Repr

variable {M E : Type}

/-- The loop `for i := len(mws) - 1; i >= 0; i-- { h = mws[i].Middleware(h) }`,
with `i` the number of middlewares still to apply. -/
def wrapDown (mws : List M) : (i : Nat) → i ≤ mws.length → Chain M E → Chain M E
  | 0, _, h => h
  | i + 1, bound, h => wrapDown mws i (Nat.le_of_succ_le bound) (.wrap (mws.get ⟨i, bound⟩) h)

/-- `h` behind every middleware of `mws`, as `Run` wraps it. -/
def wrapAll (mws : List M) (h : Chain M E) : Chain M E := wrapDown mws mws.length le_rfl h

/-- The recursion over the first `i` middlewares is a right fold over them. -/
theorem wrapDown_eq_foldr (mws : List M) (i : Nat) (bound : i ≤ mws.length) (h : Chain M E) :
    wrapDown mws i bound h = (mws.take i).foldr .wrap h := by
  induction i generalizing h with
  | zero => rfl
  | succ i ih =>
    rw [wrapDown, ih, ← List.take_concat_get' mws i bound, List.foldr_concat]
    rfl

/-- The downward loop puts the first middleware of the list outermost: it is the
right fold of the list around the handler. -/
theorem wrapAll_eq_foldr (mws : List M) (h : Chain M E) : wrapAll mws h = mws.foldr .wrap h := by
  rw [wrapAll, wrapDown_eq_foldr, List.take_length]

/-- The router groups: `srv.Router`, made with the root path, and the groups of
the management and debug prefixes. -/
inductive Group
  | root (path : String)
  | gdd
  | debug
  deriving DecidableEq, Repr

/-- A call `group.Handler(method, path, handler, name)`. -/
structure Registration (M E : Type) where
  group : Group
  method : String
  path : String
  handler : Chain M E
  name : String
  deriving DecidableEq, Repr

/-- `HttpRouterSrv` with the fields of its `common` part: the root path its
business router was made with, the middlewares and the three route lists. -/
structure HttpRouterSrv (U H : Type) where
  rootPath : String
  middlewares : List (Middleware U)
  bizRoutes : List (Route H)
  gddRoutes : List (Route H)
  debugRoutes : List (Route H)

/-- The defaults of the variables the server reads besides the registry's. -/
structure HttpDefaults where
  defaultGddEnableResponseGzip : Bool
  defaultGddLogReqEnable : Bool
  defaultGddAppType : String
  defaultGddManage : Bool
  defaultGddWriteTimeout : String
  defaultGddReadTimeout : String
  defaultGddIdleTimeout : String
  defaultGddHost : String
  defaultGddGraceTimeout : String

/-- The values of those variables. -/
structure HttpEnv where
  enableResponseGzip : String
  logReqEnable : String
  appType : String
  manage : String
  writeTimeout : String
  readTimeout : String
  idleTimeout : String
  host : String
  graceTimeout : String

/-- The helpers and constants the file uses that are not in the source:
`cast.ToBoolOrDefault`, `LoadOrDefault` of a variable, and the two path prefixes. -/
structure HttpPackages where
  defaults : HttpDefaults
  toBoolOrDefault : String → Bool → Bool
  loadOrDefault : String → String → String
  gddPathPrefix : String
  debugPathPrefix : String

variable {U H : Type} (p : Packages) (env : Env) (hp : HttpPackages) (henv : HttpEnv)

/-- The root path of the business routes: the configured one, else the default,
and `/` when both are blank. -/
def rootPath : String :=
  let rr := if isNotEmpty (env .gddRouteRootPath) then env .gddRouteRootPath
    else p.defaults.defaultGddRouteRootPath
  if isEmpty rr then "/" else rr

/-- The middlewares `NewHttpRouterSrv` starts with, appended as the source does. -/
def baseMiddlewares : List (Middleware U) :=
  let mws := [.tracing, .metrics]
  let mws := if hp.toBoolOrDefault henv.enableResponseGzip hp.defaults.defaultGddEnableResponseGzip
    then mws ++ [.gzip] else mws
  let mws := if hp.toBoolOrDefault henv.logReqEnable hp.defaults.defaultGddLogReqEnable
    then mws ++ [.log] else mws
  let mws := mws ++ [.requestId, .proxyHeaders]
  if trimSpace (hp.loadOrDefault henv.appType hp.defaults.defaultGddAppType) = "rest"
    then mws ++ [.rest] else mws

/-- `NewHttpRouterSrv`. -/
def newHttpRouterSrv : HttpRouterSrv U H :=
  ⟨rootPath p env, baseMiddlewares hp henv, [], [], []⟩

/-- `AddRoute`. -/
def addRoute (routes : List (Route H)) (srv : HttpRouterSrv U H) : HttpRouterSrv U H :=
  { srv with bizRoutes := srv.bizRoutes ++ routes }

/-- `AddMiddleware`: to the end of the chain. -/
def addMiddleware (mwf : List U) (srv : HttpRouterSrv U H) : HttpRouterSrv U H :=
  { srv with middlewares := srv.middlewares ++ mwf.map .user }

/-- `PreMiddleware`: to the head of the chain, in the order given. -/
def preMiddleware (mwf : List U) (srv : HttpRouterSrv U H) : HttpRouterSrv U H :=
  { srv with middlewares := mwf.map .user ++ srv.middlewares }

/-- The statsviz routes `Run` adds to the management routes; only the second has
a handler. -/
def statsvizRoutes : List (Route H) :=
  [⟨"GetStatsvizWs", "GET", hp.gddPathPrefix ++ "statsviz/ws", none⟩,
   ⟨"GetStatsviz", "GET", hp.gddPathPrefix ++ "statsviz/*filepath", some .statsviz⟩]

/-- The pprof routes `Run` adds to the debug routes; only the last has a handler. -/
def pprofRoutes : List (Route H) :=
  [⟨"GetDebugPprofCmdline", "GET", hp.debugPathPrefix ++ "pprof/cmdline", none⟩,
   ⟨"GetDebugPprofProfile", "GET", hp.debugPathPrefix ++ "pprof/profile", none⟩,
   ⟨"GetDebugPprofSymbol", "GET", hp.debugPathPrefix ++ "pprof/symbol", none⟩,
   ⟨"GetDebugPprofTrace", "GET", hp.debugPathPrefix ++ "pprof/trace", none⟩,
   ⟨"GetDebugPprofIndex", "GET", hp.debugPathPrefix ++ "pprof/*filepath", some .pprof⟩]

/-- The middlewares of the management and debug routes. -/
def gddMiddlewares : List (Middleware U) := [.metrics, .cors, .basicAuth]

/-- The loop over the management or debug routes: a route without `HandlerFunc`
is skipped, the others are registered behind `gddMiddlewares` at their pattern
without the group's prefix. -/
def registerGroup (group : Group) (pre : String) (routes : List (Route H)) :
    List (Registration (Middleware U) (Option (Endpoint H))) :=
  routes.filterMap fun item => item.handlerFunc.map fun h =>
    ⟨group, item.method, "/" ++ trimPrefix item.pattern pre, wrapAll gddMiddlewares (.core (some h)),
      item.name⟩

/-- `manage`: whether `Run` serves the management and debug routes. -/
def manage : Bool := hp.toBoolOrDefault henv.manage hp.defaults.defaultGddManage

/-- A timeout as `newHttpServer` and the deferred shutdown read it: the value by
`time.ParseDuration`, else the default read the same way, zero when that fails too. -/
def parseTimeout (value default : String) : Duration :=
  (parseDuration value).getD (parseDefault default)

/-- The fields `newHttpServer` sets on the `http.Server` it starts. -/
structure HttpServer where
  addr : String
  writeTimeout : Duration
  readTimeout : Duration
  idleTimeout : Duration
  deriving DecidableEq, Repr

/-- The port `newHttpServer` listens on: `GDD_PORT` as written when `cast.ToIntE`
reads it, else the default's decimal text. -/
def httpPort : String :=
  if (p.toIntE (env .gddPort)).isSome then env .gddPort else toString p.defaults.defaultGddPort

/-- The host `newHttpServer` listens on: `GDD_HOST` when it is not blank. -/
def httpHost : String := if isNotEmpty henv.host then henv.host else hp.defaults.defaultGddHost

/-- `newHttpServer`. -/
def newHttpServer : HttpServer :=
  ⟨join ':' [httpHost hp henv, httpPort p env],
    parseTimeout henv.writeTimeout hp.defaults.defaultGddWriteTimeout,
    parseTimeout henv.readTimeout hp.defaults.defaultGddReadTimeout,
    parseTimeout henv.idleTimeout hp.defaults.defaultGddIdleTimeout⟩

/-- What `Run` has set up once it serves: the server's fields, the routes
registered in order, the not-found and method-not-allowed handlers, the
`http.Server`, and the deadline the deferred shutdown waits for. -/
structure Served (U H : Type) where
  srv : HttpRouterSrv U H
  registrations : List (Registration (Middleware U) (Option (Endpoint H)))
  notFound : Chain (Middleware U) (Option (Endpoint H))
  methodNotAllowed : Chain (Middleware U) (Option (Endpoint H))
  server : HttpServer
  grace : Duration

/-- `Run`, with `management` the routes of `onlinedoc`, `prometheus`, `registry`
and `configui` in that order. A business route without `HandlerFunc` is still
registered, its chain ending in the nil handler. -/
def run (management : List (Route H)) (srv : HttpRouterSrv U H) : Served U H :=
  let (srv, managed) :=
    if manage hp henv then
      let srv := { srv with middlewares := .prometheus :: srv.middlewares }
      let srv := { srv with gddRoutes := srv.gddRoutes ++ management ++ statsvizRoutes hp }
      let gdd := registerGroup .gdd hp.gddPathPrefix srv.gddRoutes
      let srv := { srv with debugRoutes := srv.debugRoutes ++ pprofRoutes hp }
      (srv, gdd ++ registerGroup .debug hp.debugPathPrefix srv.debugRoutes)
    else (srv, [])
  let srv := { srv with middlewares := srv.middlewares ++ [.recovery] }
  let biz := srv.bizRoutes.map fun item =>
    ⟨.root srv.rootPath, item.method, item.pattern, wrapAll srv.middlewares (.core item.handlerFunc),
      item.name⟩
  ⟨srv, managed ++ biz, wrapAll srv.middlewares (.core (some .notFound)),
    wrapAll srv.middlewares (.core (some .methodNotAllowed)), newHttpServer p env hp henv,
    parseTimeout henv.graceTimeout hp.defaults.defaultGddGraceTimeout⟩

/-- The four timeouts the server reads: three in `newHttpServer`, the grace
period in the shutdown `Run` defers. -/
inductive ServerTimeout
  | write | read | idle | grace
  deriving DecidableEq, Repr

namespace ServerTimeout

/-- The variable the timeout is read from. -/
def value : ServerTimeout → HttpEnv → String
  | write => HttpEnv.writeTimeout
  | read => HttpEnv.readTimeout
  | idle => HttpEnv.idleTimeout
  | grace => HttpEnv.graceTimeout

/-- Its default. -/
def default : ServerTimeout → HttpDefaults → String
  | write => HttpDefaults.defaultGddWriteTimeout
  | read => HttpDefaults.defaultGddReadTimeout
  | idle => HttpDefaults.defaultGddIdleTimeout
  | grace => HttpDefaults.defaultGddGraceTimeout

/-- Where `Run` puts it. -/
def field : ServerTimeout → Served U H → Duration
  | write => fun served => served.server.writeTimeout
  | read => fun served => served.server.readTimeout
  | idle => fun served => served.server.idleTimeout
  | grace => Served.grace

end ServerTimeout

/-! ## Setting the server up

Between `NewHttpRouterSrv` and `Run` a program calls `AddRoute`,
`AddMiddleware` and `PreMiddleware` in any order. -/

/-- The calls that set the server up. -/
inductive Setup (U H : Type)
  | addRoute (routes : List (Route H))
  | addMiddleware (mwf : List U)
  | preMiddleware (mwf : List U)

namespace Setup

/-- One setup call. -/
def apply : Setup U H → HttpRouterSrv U H → HttpRouterSrv U H
  | addRoute routes => HttpRouter.addRoute routes
  | addMiddleware mwf => HttpRouter.addMiddleware mwf
  | preMiddleware mwf => HttpRouter.preMiddleware mwf

/-- The routes a call adds. -/
def routes : Setup U H → List (Route H)
  | addRoute routes => routes
  | _ => []

/-- The middlewares a call appends. -/
def appended : Setup U H → List U
  | addMiddleware mwf => mwf
  | _ => []

/-- The middlewares a call puts in front. -/
def prepended : Setup U H → List U
  | preMiddleware mwf => mwf
  | _ => []

end Setup

/-- The server `NewHttpRouterSrv` makes, after the setup calls in order. -/
def setUp (calls : List (Setup U H)) : HttpRouterSrv U H :=
  calls.foldl (fun srv call => call.apply srv) (newHttpRouterSrv p env hp henv)

/-! ## What `Run` registers

Whatever the setup calls, `Run` registers every business route in the root
group, in the order added, behind one chain: the Prometheus middleware when the
management routes are on, the `PreMiddleware` middlewares with the latest call's
first, those of `NewHttpRouterSrv`, the `AddMiddleware` middlewares in call order,
and `recovery` innermost. The management and debug routes get their own three
middlewares and nothing else, and only those with a handler are registered. -/

/-- The setup calls, in order, give the middleware chain and the business routes. -/
theorem setUp_eq (calls : List (Setup U H)) :
    setUp p env hp henv calls =
      ⟨rootPath p env,
        (calls.reverse.flatMap Setup.prepended).map .user ++ baseMiddlewares hp henv ++
          (calls.flatMap Setup.appended).map .user,
        calls.flatMap Setup.routes, [], []⟩ := by
  induction calls using List.reverseRecOn with
  | nil => simp [setUp, newHttpRouterSrv]
  | append_singleton calls call ih =>
    simp only [setUp] at ih ⊢
    rw [List.foldl_append, ih]
    cases call <;> simp [Setup.apply, addRoute, addMiddleware, preMiddleware, Setup.routes,
      Setup.appended, Setup.prepended]

/-- Every registration of a group is in that group. -/
theorem group_of_mem_registerGroup {group : Group} {pre : String} {routes : List (Route H)}
    {reg : Registration (Middleware U) (Option (Endpoint H))}
    (member : reg ∈ registerGroup group pre routes) : reg.group = group := by
  obtain ⟨route, -, entry⟩ := List.mem_filterMap.mp member
  obtain ⟨h, -, rfl⟩ := Option.map_eq_some'.mp entry
  rfl

/-- A group other than the root registers nothing under the root. -/
theorem registerGroup_filter_root {group : Group} {pre path : String} {routes : List (Route H)}
    (other : group ≠ .root path) :
    (registerGroup (U := U) group pre routes).filter (·.group = .root path) = [] :=
  List.filter_eq_nil_iff.mpr fun _ member => by simp [group_of_mem_registerGroup member, other]

/-- Every business route, and the not-found and method-not-allowed handlers, sit
behind one chain: `prometheus` when managed, the user's middlewares around the base ones, then `recovery`. -/
theorem run_wraps_business_routes (calls : List (Setup U H)) (management : List (Route H)) :
    let served := run p env hp henv management (setUp p env hp henv calls)
    let chain := (if manage hp henv then [.prometheus] else []) ++
      (calls.reverse.flatMap Setup.prepended).map .user ++ baseMiddlewares hp henv ++
      (calls.flatMap Setup.appended).map .user ++ [.recovery]
    served.registrations.filter (·.group = .root (rootPath p env)) =
        (calls.flatMap Setup.routes).map (fun route =>
          ⟨.root (rootPath p env), route.method, route.pattern,
            chain.foldr .wrap (.core route.handlerFunc), route.name⟩) ∧
      served.notFound = chain.foldr .wrap (.core (some .notFound)) ∧
      served.methodNotAllowed = chain.foldr .wrap (.core (some .methodNotAllowed)) := by
  intro served chain
  simp only [served, chain, run, setUp_eq, wrapAll_eq_foldr, List.filter_append, List.filter_map]
  cases manage hp henv <;> simp [Function.comp_def, registerGroup_filter_root]

/-- A management or debug registration is never in the root group. -/
theorem registerGroup_filter_not_root {group : Group} {pre path : String}
    {routes : List (Route H)} (other : group ≠ .root path) :
    (registerGroup (U := U) group pre routes).filter (·.group ≠ .root path) =
      registerGroup group pre routes :=
  List.filter_eq_self.mpr fun _ member => by simp [group_of_mem_registerGroup member, other]

/-- The loop over a group's routes registers the routes of each part in turn. -/
theorem registerGroup_append (group : Group) (pre : String) (routes routes' : List (Route H)) :
    registerGroup (U := U) group pre (routes ++ routes') =
      registerGroup group pre routes ++ registerGroup group pre routes' :=
  List.filterMap_append _ _ _

/-- Of the two statsviz routes only the catch-all has a handler: one registration. -/
theorem registerGroup_statsvizRoutes :
    registerGroup (U := U) .gdd hp.gddPathPrefix (statsvizRoutes (H := H) hp) =
      [⟨.gdd, "GET", "/statsviz/*filepath",
        .wrap .metrics (.wrap .cors (.wrap .basicAuth (.core (some .statsviz)))), "GetStatsviz"⟩] := by
  simp [registerGroup, statsvizRoutes, trimPrefix_append, wrapAll_eq_foldr, gddMiddlewares]

/-- Of the five pprof routes only the catch-all has a handler: one registration. -/
theorem registerGroup_pprofRoutes :
    registerGroup (U := U) .debug hp.debugPathPrefix (pprofRoutes (H := H) hp) =
      [⟨.debug, "GET", "/pprof/*filepath",
        .wrap .metrics (.wrap .cors (.wrap .basicAuth (.core (some .pprof)))),
        "GetDebugPprofIndex"⟩] := by
  simp [registerGroup, pprofRoutes, trimPrefix_append, wrapAll_eq_foldr, gddMiddlewares]

/-- Whatever the setup calls, the registrations outside the root group are none
when the management routes are off. When they are on, they are one registration
per management route that has a handler, in order, at its pattern without the
management prefix, then `GetStatsviz` at `/statsviz/*filepath` and
`GetDebugPprofIndex` at `/pprof/*filepath`, each behind exactly `metrics`,
`cors` and `basicAuth`. `GetStatsvizWs` and the four named pprof routes have no
handler and are never registered. -/
theorem management_routes_only_behind_gdd_middlewares (calls : List (Setup U H))
    (management : List (Route H)) :
    (run p env hp henv management (setUp p env hp henv calls)).registrations.filter
        (·.group ≠ .root (rootPath p env)) =
      if manage hp henv then
        management.filterMap (fun route => route.handlerFunc.map fun h =>
          ⟨.gdd, route.method, "/" ++ trimPrefix route.pattern hp.gddPathPrefix,
            .wrap .metrics (.wrap .cors (.wrap .basicAuth (.core (some h)))), route.name⟩) ++
        [⟨.gdd, "GET", "/statsviz/*filepath",
            .wrap .metrics (.wrap .cors (.wrap .basicAuth (.core (some .statsviz)))), "GetStatsviz"⟩,
          ⟨.debug, "GET", "/pprof/*filepath",
            .wrap .metrics (.wrap .cors (.wrap .basicAuth (.core (some .pprof)))),
            "GetDebugPprofIndex"⟩]
      else [] := by
  have business (f : Route H → Chain (Middleware U) (Option (Endpoint H))) :
      ((calls.flatMap Setup.routes).map (fun item =>
        (⟨.root (rootPath p env), item.method, item.pattern, f item, item.name⟩ :
          Registration _ _))).filter (·.group ≠ .root (rootPath p env)) = [] :=
    List.filter_eq_nil_iff.mpr fun _ member => by
      obtain ⟨_, -, rfl⟩ := List.mem_map.mp member
      simp
  cases manage_on : manage hp henv
  · simp only [run, setUp_eq, manage_on, Bool.false_eq_true, ↓reduceIte, List.nil_append]
    exact business _
  · simp only [run, setUp_eq, manage_on, ↓reduceIte, List.nil_append, List.filter_append,
      business, List.append_nil, registerGroup_filter_not_root (by simp : Group.gdd ≠ _),
      registerGroup_filter_not_root (by simp : Group.debug ≠ _), registerGroup_append,
      registerGroup_statsvizRoutes, registerGroup_pprofRoutes, List.append_assoc]
    simp [registerGroup, wrapAll_eq_foldr, gddMiddlewares]

/-! ## Timeouts -/

/-- `Run` sets each server timeout from its option, or its default. -/
theorem field_run (o : ServerTimeout) (management : List (Route H)) (srv : HttpRouterSrv U H) :
    o.field (run p env hp henv management srv) = parseTimeout (o.value henv) (o.default hp.defaults) := by
  unfold run
  cases manage hp henv <;> cases o <;> rfl

/-- A server timeout written as a bare number, the form the membership options
take, is never read as one: `time.ParseDuration` wants a unit, so `0`, `+0` and
`-0` give no timeout and every other number the default. -/
theorem integer_timeout_ignored (o : ServerTimeout) (management : List (Route H))
    (srv : HttpRouterSrv U H) {n : Int} (accepted : atoi (o.value henv) = some n) :
    o.field (run p env hp henv management srv) =
      if (splitSign (o.value henv).data).2 = ['0'] then 0 else parseDefault (o.default hp.defaults) := by
  rw [field_run, parseTimeout, parseDuration_of_atoi accepted]
  split_ifs <;> rfl

/-- Helpers and defaults for the server: booleans read by `strconv.ParseBool`,
the management routes under `/go-doudou/`, the debug routes under `/debug/`. -/
def sampleHttp : HttpPackages where
  defaults := ⟨true, false, "rest", true, "15s", "15s", "60s", "", "15s"⟩
  toBoolOrDefault value default := (parseBool value).getD default
  loadOrDefault value default := if isEmpty value then default else value
  gddPathPrefix := "/go-doudou/"
  debugPathPrefix := "/debug/"

/-- `GDD_WRITETIMEOUT=30`, every other variable unset. -/
def bareWriteTimeout : HttpEnv := ⟨"", "", "", "", "30", "", "", "", ""⟩

/-- `GDD_WRITETIMEOUT=30` leaves the write timeout at its default of fifteen seconds. -/
theorem write_timeout_thirty_is_default :
    ServerTimeout.write.field (run specPackages (fun _ => "") sampleHttp bareWriteTimeout
      ([] : List (Route Unit))
      (newHttpRouterSrv (U := Unit) specPackages (fun _ => "") sampleHttp bareWriteTimeout)) =
      15 * second := by
  rw [@integer_timeout_ignored Unit Unit specPackages (fun _ => "") sampleHttp bareWriteTimeout .write
    [] _ 30 (by decide)]
  decide

end DoudouRegistry.HttpRouter
