import DoudouRegistry.Facade

/-!
# What a node advertises, read back

`newMeta` decodes the meta a node gossips with `json.Unmarshal`; `BaseUrl`,
`MetaWeight` and `SvcName` read one field of it and `Info` gathers them all. The
decoder belongs to `encoding/json` and is a parameter here: it gives the value
it leaves in a zero `mergedMeta` and its error, if any. The uptime `Info`
reports comes from the clock and `durafmt`, also a parameter. With the decoder
left open, nothing here is proved about what a node reads back: that would need
the encoding `json.Marshal` gives the meta and its round trip through
`json.Unmarshal`, both outside the sources.
-/

namespace DoudouRegistry.Advertised

open Membership NewConf Facade

variable {Data : Type} [EmptyCollection Data]

/-- The zero `mergedMeta`. -/
def zeroMeta : MergedMeta Data := ⟨⟨"", "", 0, none, "", "", "", "", 0⟩, ∅⟩

/-- `NodeInfo`. -/
structure NodeInfo (Data : Type) where
  svcName : String
  hostname : String
  baseUrl : String
  status : String
  uptime : String
  goVer : String
  gddVer : String
  buildUser : String
  buildTime : String
  data : Data
  host : String
  svcPort : Int
  memPort : Nat

section Decode

variable (unmarshal : List UInt8 → MergedMeta Data × Option String)

/-- `newMeta`: the zero meta for a node without meta, otherwise what
`json.Unmarshal` leaves, with its error wrapped. -/
def newMeta (node : Node) : MergedMeta Data × Option String :=
  if node.meta.length > 0 then
    match unmarshal node.meta with
    | (mm, some cause) => (mm, some ("Unmarshal node meta failed, not a valid json: " ++ cause))
    | (mm, none) => (mm, none)
  else (zeroMeta, none)

/-- `BaseUrl`: `http://` with the node's address, its service port and its route
root path. -/
def baseUrl (node : Node) : Except String String :=
  match newMeta unmarshal node with
  | (_, some e) => .error e
  | (mm, none) => .ok ("http://" ++ node.addr ++ ":" ++ toString mm.meta.port ++ mm.meta.routeRootPath)

/-- `MetaWeight`. -/
def metaWeight (node : Node) : Except String Int :=
  match newMeta unmarshal node with
  | (_, some e) => .error e
  | (mm, none) => .ok mm.meta.weight

/-- `SvcName`: the empty name when the meta does not decode. -/
def svcName (node : Node) : String :=
  match newMeta unmarshal node with
  | (_, some _) => ""
  | (mm, none) => mm.meta.service

/-- `Info`, with `since` the rendering of the time since registration
(`time.Since`, then `durafmt` to two units). Errors are ignored. -/
def info (since : Int → String) (node : Node) : NodeInfo Data :=
  let meta := (newMeta unmarshal node).1
  { svcName := meta.meta.service
    hostname := node.name
    baseUrl := match baseUrl unmarshal node with
      | .ok url => url
      | .error _ => ""
    status := if node.state = .suspect then "suspect" else "up"
    uptime := match meta.meta.registerAt with
      | none => ""
      | some t => since t
    goVer := meta.meta.goVer
    gddVer := meta.meta.gddVer
    buildUser := meta.meta.buildUser
    buildTime := meta.meta.buildTime
    data := meta.data
    host := node.addr
    svcPort := meta.meta.port
    memPort := node.port.toNat }

end Decode

end DoudouRegistry.Advertised
