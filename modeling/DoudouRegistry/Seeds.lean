import DoudouRegistry.NewConf

/-!
# The seed list

`seeds` cuts the configured seed string at its commas and gives every field a
port: the text after the field's last colon when `cast.ToIntE` reads it, the
default memberlist port when it does not or when the field has no colon. A
field that ends with a colon skips both branches of the loop body and is kept
as it is, without a port; `seeds_fields` states the whole law with that case.

The list `seeds` writes is a normal form: joined with commas and read again, it
comes back unchanged (`seeds_idempotent`).
-/

namespace DoudouRegistry.Seeds

open Strings NewConf

variable (p : Packages)

/-- `fmt.Sprintf("%s:%d", host, port)`. -/
def hostPort (host : List Char) (port : Int) : String := String.mk host ++ ":" ++ toString port

/-- The body of the loop of `seeds`: the address it leaves for one field. -/
def seedAddress (seed : List Char) : String :=
  match lastIndex ':' seed with
  | none => hostPort seed p.defaults.defaultGddMemPort
  | some li =>
    if seed.length > li + 1 then
      match p.toIntE (String.mk (seed.drop (li + 1))) with
      | none => hostPort (seed.take li) p.defaults.defaultGddMemPort
      | some port => hostPort (seed.take li) port
    else String.mk seed

/-- `seeds`: nothing for a blank string, otherwise one address per comma-separated
field, in order. -/
def seeds (seedstr : String) : List String :=
  if isEmpty seedstr then [] else (split ',' seedstr.data).map (seedAddress p)

/-- The address the specification gives a field: the field up to its last colon
(all of it without one), then the port that `cast.ToIntE` reads after that colon,
or the default port when there is no such text or it does not read. -/
def specAddress (seed : List Char) : String :=
  match lastIndex ':' seed with
  | none => hostPort seed p.defaults.defaultGddMemPort
  | some li =>
    let port :=
      if seed.length = li + 1 then none else p.toIntE (String.mk (seed.drop (li + 1)))
    hostPort (seed.take li) (port.getD p.defaults.defaultGddMemPort)

/-! ## Where the last colon is -/

/-- The last index of a separator holds that separator. -/
theorem lastIndex_getElem {sep : Char} {xs : List Char} {i : Nat} (found : lastIndex sep xs = some i) :
    xs[i]? = some sep := by
  induction xs generalizing i with
  | nil => cases found
  | cons c cs ih =>
    simp only [lastIndex] at found
    split at found
    · rename_i j later
      cases found
      exact List.getElem?_cons_succ.trans (ih later)
    · split_ifs at found with same
      cases found
      simp [same]

/-- The last index of a separator is inside the text. -/
theorem lastIndex_lt {sep : Char} {xs : List Char} {i : Nat} (found : lastIndex sep xs = some i) :
    i < xs.length :=
  (List.getElem?_eq_some_iff.mp (lastIndex_getElem found)).1

/-- The last separator of two texts is in the second, or else in the first. -/
theorem lastIndex_append {sep : Char} (xs ys : List Char) :
    lastIndex sep (xs ++ ys) =
      match lastIndex sep ys with
      | some i => some (xs.length + i)
      | none => lastIndex sep xs := by
  induction xs with
  | nil => split <;> simp_all [lastIndex]
  | cons c cs ih =>
    rw [List.cons_append, lastIndex, ih]
    cases lastIndex sep ys with
    | some i => simp only [List.length_cons, Option.some.injEq]; omega
    | none => rfl

/-- A field that ends with the separator has its last one at its end. -/
theorem lastIndex_of_getLast {sep : Char} {xs : List Char} (last : xs.getLast? = some sep) :
    lastIndex sep xs = some (xs.length - 1) := by
  obtain ⟨ys, rfl⟩ : ∃ ys, xs = ys ++ [sep] := by
    rcases List.eq_nil_or_concat xs with empty | ⟨ys, c, rfl⟩
    · simp [empty] at last
    · rw [List.concat_eq_append, List.getLast?_concat, Option.some.injEq] at last
      exact ⟨ys, by rw [List.concat_eq_append, last]⟩
  rw [lastIndex_append]
  simp [lastIndex]

/-- The loop body of `seeds` is the specification's address for every field,
except a field ending with a colon, which it keeps unchanged. -/
theorem seedAddress_eq (seed : List Char) :
    seedAddress p seed =
      if seed.getLast? = some ':' then String.mk seed else specAddress p seed := by
  unfold seedAddress specAddress
  split
  · rename_i absent
    rw [if_neg fun last => by simp [lastIndex_of_getLast last] at absent]
  · rename_i li found
    have bound := lastIndex_lt found
    by_cases longer : seed.length > li + 1
    · have open_ : seed.getLast? ≠ some ':' := fun last => by
        rw [lastIndex_of_getLast last, Option.some.injEq] at found
        omega
      simp only [if_pos longer, if_neg open_, show seed.length ≠ li + 1 by omega, if_false]
      cases p.toIntE (String.mk (seed.drop (li + 1))) <;> rfl
    · have last : seed.getLast? = some ':' := by
        rw [List.getLast?_eq_getElem?, show seed.length - 1 = li by omega]
        exact lastIndex_getElem found
      rw [if_neg longer, if_pos last]

/-- `seeds` on every seed string that is not blank: one address per
comma-separated field, in order; a field ending with a colon is kept unchanged
and every other field gets the specification's address. -/
theorem seeds_fields (s : String) (nonblank : isEmpty s = false) :
    seeds p s = (split ',' s.data).map fun seed =>
      if seed.getLast? = some ':' then String.mk seed else specAddress p seed := by
  simp only [seeds, nonblank, Bool.false_eq_true, if_false]
  exact List.map_congr_left fun seed _ => seedAddress_eq p seed

/-! ## The seed list is a normal form

Every address `seeds` writes is read back by `seeds` as itself, as long as
`cast.ToIntE` reads again the decimal text of each port it returns and of the
default port. So writing the list back with `strings.Join` and reading it again
changes nothing.
-/

/-- Splitting gives at least one field. -/
theorem split_ne_nil (sep : Char) (xs : List Char) : split sep xs ≠ [] := by
  induction xs with
  | nil => simp [split]
  | cons c cs ih =>
    simp only [split]
    split_ifs
    · simp
    · simpa using ih

/-- `seeds` gives no address exactly for a blank string. -/
theorem seeds_eq_nil_iff (s : String) : seeds p s = [] ↔ isEmpty s = true := by
  by_cases blank : isEmpty s <;> simp [seeds, blank, split_ne_nil]

/-- No field of a split holds the separator. -/
theorem not_mem_of_mem_split {sep : Char} {xs field : List Char} (member : field ∈ split sep xs) :
    sep ∉ field := by
  induction xs generalizing field with
  | nil => simp_all [split]
  | cons c cs ih =>
    simp only [split] at member
    split_ifs at member with same
    · rcases List.mem_cons.mp member with rfl | later
      · simp
      · exact ih later
    · obtain ⟨first, rest, parts⟩ := List.exists_cons_of_ne_nil (split_ne_nil sep cs)
      rw [parts, List.modifyHead_cons] at member
      rcases List.mem_cons.mp member with rfl | later
      · exact List.not_mem_cons_of_ne_of_not_mem (Ne.symm same) (ih (parts ▸ List.mem_cons_self _ _))
      · exact ih (parts ▸ List.mem_cons_of_mem _ later)

/-- A text without the separator has no last index of it. -/
theorem lastIndex_eq_none {sep : Char} {xs : List Char} (absent : sep ∉ xs) : lastIndex sep xs = none := by
  induction xs with
  | nil => rfl
  | cons c cs ih =>
    rw [List.mem_cons, not_or] at absent
    simp [lastIndex, ih absent.2, Ne.symm absent.1]

/-- A field `seeds` has already written, `host:port` with a port that reads, is
left as it is. -/
theorem seedAddress_hostPort {host : List Char} {port : Int}
    (reads : p.toIntE (toString port) = some port) :
    seedAddress p (hostPort host port).data = hostPort host port := by
  obtain ⟨nonempty, chars⟩ := Strings.toString_data port
  have noColon : ':' ∉ (toString port).data := fun member => by
    rcases chars ':' member with digit | minus
    · exact absurd digit (by decide)
    · exact absurd minus (by decide)
  have data : (hostPort host port).data = host ++ ':' :: (toString port).data := by
    simp [hostPort]
  have found : lastIndex ':' (hostPort host port).data = some host.length := by
    rw [data, lastIndex_append]
    simp [lastIndex, lastIndex_eq_none noColon]
  have longer : (hostPort host port).data.length > host.length + 1 := by
    rw [data]
    have := List.length_pos.mpr nonempty
    simp only [List.length_append, List.length_cons]
    omega
  have port_text : String.mk ((hostPort host port).data.drop (host.length + 1)) = toString port := by
    rw [data, ← List.singleton_append, ← List.append_assoc, List.drop_left' (by simp)]
  have host_text : (hostPort host port).data.take host.length = host := by
    rw [data, List.take_left]
  rw [seedAddress, found]
  simp only [if_pos longer, port_text, reads, host_text]

/-- What the loop body of `seeds` writes for a field: the field's text up to its
last colon with a port that `cast.ToIntE` returned or the default port, or, for a
field ending with a colon, the field itself. -/
theorem seedAddress_cases (seed : List Char) :
    (∃ host port, host <+: seed ∧
      (port = p.defaults.defaultGddMemPort ∨ ∃ text, p.toIntE text = some port) ∧
      seedAddress p seed = hostPort host port) ∨
    (seed.getLast? = some ':' ∧ seedAddress p seed = String.mk seed) := by
  unfold seedAddress
  split
  · exact .inl ⟨seed, _, List.prefix_refl seed, .inl rfl, rfl⟩
  next li found =>
    split
    · split
      · exact .inl ⟨_, _, List.take_prefix _ seed, .inl rfl, rfl⟩
      next port parsed => exact .inl ⟨_, _, List.take_prefix _ seed, .inr ⟨_, parsed⟩, rfl⟩
    next shorter =>
      have bound := lastIndex_lt found
      refine .inr ⟨?_, rfl⟩
      rw [List.getLast?_eq_getElem?, show seed.length - 1 = li by omega]
      exact lastIndex_getElem found

section Rereads

variable {p}
variable (rereads : ∀ text port, p.toIntE text = some port → p.toIntE (toString port) = some port)
  (readsDefault : p.toIntE (toString p.defaults.defaultGddMemPort) = some p.defaults.defaultGddMemPort)
include rereads readsDefault

/-- The loop body of `seeds` leaves what it wrote as it is. -/
theorem seedAddress_seedAddress (seed : List Char) :
    seedAddress p (seedAddress p seed).data = seedAddress p seed := by
  rcases seedAddress_cases p seed with ⟨host, port, -, readable, written⟩ | ⟨-, kept⟩
  · have reads : p.toIntE (toString port) = some port := by
      rcases readable with rfl | ⟨text, parsed⟩
      · exact readsDefault
      · exact rereads text port parsed
    rw [written, seedAddress_hostPort p reads]
  · rw [kept]
    exact kept

end Rereads

/-- What `seeds` writes for a field holds a colon, and a comma only if the field did. -/
theorem seedAddress_chars (seed : List Char) :
    ':' ∈ (seedAddress p seed).data ∧ (',' ∉ seed → ',' ∉ (seedAddress p seed).data) := by
  rcases seedAddress_cases p seed with ⟨host, port, prefix_, -, written⟩ | ⟨last, kept⟩
  · obtain ⟨-, chars⟩ := Strings.toString_data port
    have data : (hostPort host port).data = host ++ ':' :: (toString port).data := by
      simp [hostPort]
    rw [written, data]
    refine ⟨by simp, fun absent member => ?_⟩
    rcases List.mem_append.mp member with inHost | inPort
    · exact absent (prefix_.subset inHost)
    · rcases List.mem_cons.mp inPort with comma | inText
      · exact absurd comma (by decide)
      · rcases chars ',' inText with digit | minus
        · exact absurd digit (by decide)
        · exact absurd minus (by decide)
  · rw [kept]
    exact ⟨List.mem_of_getLast?_eq_some last, id⟩

/-- A joined list starts with its first piece. -/
theorem join_cons_data (sep : Char) (piece : String) (rest : List String) :
    ∃ tail, (join sep (piece :: rest)).data = piece.data ++ tail := by
  cases rest with
  | nil => exact ⟨[], by simp [join, List.intercalate]⟩
  | cons next rest =>
    exact ⟨sep :: (List.intersperse [sep] (next.data :: rest.map String.data)).flatten,
      by simp [join, List.intercalate, List.intersperse_cons₂]⟩

/-- `seeds` is a normal form: reading back with `seeds` the list it wrote, joined
with commas, gives the same list, whenever `cast.ToIntE` reads again the text of
every port it returns and of the default port. -/
theorem seeds_idempotent
    (rereads : ∀ text port, p.toIntE text = some port → p.toIntE (toString port) = some port)
    (readsDefault : p.toIntE (toString p.defaults.defaultGddMemPort) = some p.defaults.defaultGddMemPort)
    (s : String) : seeds p (join ',' (seeds p s)) = seeds p s := by
  by_cases blank : isEmpty s
  · have empty : seeds p s = [] := by simp [seeds, blank]
    rw [empty]
    rfl
  · have written : seeds p s = (split ',' s.data).map (seedAddress p) := by simp [seeds, blank]
    obtain ⟨field, fields, parts⟩ := List.exists_cons_of_ne_nil (split_ne_nil ',' s.data)
    have separated : ∀ out ∈ seeds p s, ',' ∉ out.data := by
      intro out member
      rw [written] at member
      obtain ⟨seed, inSplit, rfl⟩ := List.mem_map.mp member
      exact (seedAddress_chars p seed).2 (not_mem_of_mem_split inSplit)
    have nonblank : isEmpty (join ',' (seeds p s)) = false := by
      obtain ⟨tail, data⟩ := join_cons_data ',' (seedAddress p field) (fields.map (seedAddress p))
      have colon : ':' ∈ (join ',' (seeds p s)).data := by
        rw [written, parts, List.map_cons, data]
        exact List.mem_append_left _ (seedAddress_chars p field).1
      simpa [isEmpty] using ⟨':', colon, by decide⟩
    rw [seeds, nonblank, if_neg Bool.false_ne_true,
      split_join (by simp [written, parts]) separated, List.map_map]
    conv_rhs => rw [written]
    rw [written, List.map_map]
    exact List.map_congr_left fun seed _ => seedAddress_seedAddress rereads readsDefault seed

/-- The seed list `a:7000,b,c:` written back and read again, with `strconv.Atoi`
for `cast.ToIntE`. -/
theorem seeds_rewritten :
    (∀ text port, specPackages.toIntE text = some port →
      specPackages.toIntE (toString port) = some port) ∧
    specPackages.toIntE (toString specPackages.defaults.defaultGddMemPort) =
      some specPackages.defaults.defaultGddMemPort ∧
    seeds specPackages (join ',' (seeds specPackages "a:7000,b,c:")) =
      seeds specPackages "a:7000,b,c:" :=
  have rereads : ∀ text port, specPackages.toIntE text = some port →
      specPackages.toIntE (toString port) = some port :=
    fun _ _ accepted => atoi_toString_of_atoi accepted
  have readsDefault : specPackages.toIntE (toString specPackages.defaults.defaultGddMemPort) =
      some specPackages.defaults.defaultGddMemPort := by decide
  ⟨rereads, readsDefault, seeds_idempotent specPackages rereads readsDefault _⟩

/-- Two fields, one with a port and one without. -/
theorem seeds_two_fields :
    isEmpty "a:7000,b" = false ∧
      seeds specPackages "a:7000,b" = (split ',' "a:7000,b".data).map fun seed =>
        if seed.getLast? = some ':' then String.mk seed else specAddress specPackages seed :=
  ⟨by decide, seeds_fields specPackages "a:7000,b" (by decide)⟩

/-- The seed string `a:` keeps its field without a port, where the specification
gives it the default port. -/
theorem seeds_trailing_colon_gets_no_port :
    seeds p "a:" = ["a:"] ∧
      (split ',' "a:".data).map (specAddress p) = ["a:" ++ toString p.defaults.defaultGddMemPort] := by
  constructor <;> rfl

end DoudouRegistry.Seeds
