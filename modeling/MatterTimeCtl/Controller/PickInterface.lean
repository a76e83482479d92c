/-
# MatterTimeCtl.Controller.PickInterface — which interface the mDNS socket is bound to.

`pickInterface` joins two entries of one flat list by the interface name: an IPv6 address that is not a loopback
address, link-local if there is such a pair, and the first IPv4 address of that name.  The IPv4 address is not
checked, so an interface with a loopback IPv4 address and another IPv6 address passes for a LAN
interface (`pickInterface_right_iff`).
-/
import MatterTimeCtl.Controller.Run
import MatterTimeCtl.Search.First

namespace MatterTimeCtl

open Effect Search

/-! ## Entries of the list -/

/-- `IpAddr::is_loopback`: 127.0.0.0/8, and ::1. -/
def IfAddr.isLoopback : IfAddr → Bool
  | .v4 octets => octets.head = 127
  | .v6 segments => segments = #v[0, 0, 0, 0, 0, 0, 0, 1]

/-- Each entry is judged by its own address. -/
def JudgedPerAddress (all : List Interface) : Prop := ∀ ia ∈ all, ia.loopback = ia.addr.isLoopback

/-- An IPv4 entry under a name. -/
def V4Of (name : String) (ia : Interface) : Prop := ia.name = name ∧ ∃ octets, ia.addr = .v4 octets

/-- An IPv6 entry that passes the filter, is not a loopback address and has an IPv4 entry under its name. -/
def Candidate (all : List Interface) (v6Filter : Vector UInt16 8 → Bool) (ia : Interface) : Prop :=
  ia.loopback = false ∧ (∃ segments, ia.addr = .v6 segments ∧ v6Filter segments = true) ∧
    ∃ e ∈ all, V4Of ia.name e

/-- The addresses of two entries, and the index of the IPv6 one. -/
structure Joins (found : Vector UInt8 4 × Vector UInt16 8 × UInt32) (e4 e6 : Interface) : Prop where
  v4 : e4.addr = .v4 found.1
  v6 : e6.addr = .v6 found.2.1
  index : found.2.2 = e6.index.getD 0

section Candidate

variable {all : List Interface} {v6Filter : Vector UInt16 8 → Bool}
  {found : Vector UInt8 4 × Vector UInt16 8 × UInt32}

/-- The IPv4 address of an entry. -/
def v4Part (ia : Interface) : Option (Vector UInt8 4) :=
  match ia.addr with
  | .v4 octets => some octets
  | .v6 _ => none

/-- The IPv6 address of an entry that is not a loopback address, if it passes the filter. -/
def v6Part (v6Filter : Vector UInt16 8 → Bool) (ia : Interface) : Option (Vector UInt16 8) :=
  match ia.addr with
  | .v6 segments => if !ia.loopback && v6Filter segments then some segments else none
  | .v4 _ => none

/-- The first IPv4 address under a name. -/
def firstV4 (all : List Interface) (name : String) : Option (Vector UInt8 4) :=
  all.findSome? fun e => if e.name = name then v4Part e else none

/-- The inner search of the code. -/
theorem findV4_eq (name : String) (segments : Vector UInt16 8) (index : UInt32)
    (part : Interface → Option (Vector UInt8 4 × Vector UInt16 8 × UInt32))
    (hpart : ∀ e, part e = (v4Part e).map fun octets => (octets, segments, index)) :
    (all.filter fun e => e.name = name).findSome? part =
      (firstV4 all name).map fun octets => (octets, segments, index) := by
  rw [findSome?_filter, firstV4, List.map_findSome?]
  congr 1
  funext e
  by_cases named : e.name = name
  · simp [named, hpart]
  · simp [named]

/-- The nested searches as one over the entries. -/
theorem interfaceCandidate_eq (all : List Interface) (v6Filter : Vector UInt16 8 → Bool) :
    interfaceCandidate all v6Filter = all.findSome? fun ia =>
      (v6Part v6Filter ia).bind fun segments =>
        (firstV4 all ia.name).map fun octets => (octets, segments, ia.index.getD 0) := by
  unfold interfaceCandidate
  dsimp only
  rw [findSome?_filterMap, findSome?_filter]
  congr 1
  funext ia
  cases loopback : ia.loopback with
  | true =>
      cases haddr : ia.addr with
      | v4 octets => simp [v6Part, haddr]
      | v6 segments => simp [v6Part, haddr, loopback]
  | false =>
      cases haddr : ia.addr with
      | v4 octets => simp [v6Part, haddr]
      | v6 segments =>
          cases passes : v6Filter segments with
          | false => simp [v6Part, haddr, loopback, passes]
          | true =>
              simp only [v6Part, haddr, loopback, passes, Bool.not_false, Bool.and_self, if_true,
                Option.bind_some]
              refine findV4_eq ia.name segments (ia.index.getD 0) _ fun e => ?_
              rw [v4Part]
              cases e.addr <;> rfl

theorem firstV4_eq_some_iff {name : String} {octets : Vector UInt8 4} :
    firstV4 all name = some octets ↔ ∃ e4, First (V4Of name) all e4 ∧ e4.addr = .v4 octets := by
  have part : ∀ e : Interface, (if e.name = name then v4Part e else none).isSome ↔ V4Of name e := by
    intro e
    unfold V4Of v4Part
    by_cases named : e.name = name
    · cases haddr : e.addr <;> simp [named]
    · simp [named]
  rw [firstV4, findSome?_eq_some_iff_first]
  constructor
  · rintro ⟨e, first, he⟩
    refine ⟨e, first.congr part, ?_⟩
    rw [if_pos ((part e).mp first.holds).1, v4Part] at he
    cases haddr : e.addr with
    | v4 octets' =>
        rw [haddr] at he
        cases he
        rfl
    | v6 segments =>
        rw [haddr] at he
        cases he
  · rintro ⟨e, first, haddr⟩
    refine ⟨e, first.congr fun e => (part e).symm, ?_⟩
    rw [if_pos first.holds.1, v4Part, haddr]

theorem firstV4_isSome_iff {name : String} : (firstV4 all name).isSome ↔ ∃ e ∈ all, V4Of name e := by
  rw [Option.isSome_iff_exists]
  constructor
  · rintro ⟨octets, h⟩
    obtain ⟨e, first, -⟩ := firstV4_eq_some_iff.mp h
    exact ⟨e, first.mem, first.holds⟩
  · intro h
    obtain ⟨e, first⟩ := exists_first h
    obtain ⟨-, octets, haddr⟩ := first.holds
    exact ⟨octets, firstV4_eq_some_iff.mpr ⟨e, first, haddr⟩⟩

theorem v6Part_eq_some_iff {ia : Interface} {segments : Vector UInt16 8} :
    v6Part v6Filter ia = some segments ↔
      ia.loopback = false ∧ ia.addr = .v6 segments ∧ v6Filter segments = true := by
  unfold v6Part
  cases haddr : ia.addr with
  | v4 octets => simp
  | v6 segments' =>
      simp only [Option.ite_none_right_eq_some, Bool.and_eq_true, Bool.not_eq_true', Option.some.injEq,
        IfAddr.v6.injEq]
      constructor
      · rintro ⟨⟨loopback, passes⟩, rfl⟩
        exact ⟨loopback, rfl, passes⟩
      · rintro ⟨loopback, rfl, passes⟩
        exact ⟨⟨loopback, passes⟩, rfl⟩

/-- What one pass finds: the addresses of its first candidate and of the first IPv4 entry of that name. -/
theorem interfaceCandidate_eq_some_iff : interfaceCandidate all v6Filter = some found ↔
    ∃ e6 e4, First (Candidate all v6Filter) all e6 ∧ First (V4Of e6.name) all e4 ∧ Joins found e4 e6 := by
  -- an entry is searched for exactly if both of its parts are there
  have candidate : ∀ ia : Interface, ((v6Part v6Filter ia).bind fun segments =>
      (firstV4 all ia.name).map fun octets => (octets, segments, ia.index.getD 0)).isSome ↔
        Candidate all v6Filter ia := by
    intro ia
    rw [Candidate, ← firstV4_isSome_iff]
    cases hpart : v6Part v6Filter ia with
    | none =>
        simp only [Option.bind_none, Option.isSome_none, Bool.false_eq_true, false_iff]
        rintro ⟨loopback, ⟨segments, haddr, passes⟩, -⟩
        rw [v6Part_eq_some_iff.mpr ⟨loopback, haddr, passes⟩] at hpart
        cases hpart
    | some segments =>
        obtain ⟨loopback, haddr, passes⟩ := v6Part_eq_some_iff.mp hpart
        simp only [Option.bind_some, Option.isSome_map, loopback, true_and]
        exact (and_iff_right ⟨segments, haddr, passes⟩).symm
  rw [interfaceCandidate_eq, findSome?_eq_some_iff_first]
  constructor
  · rintro ⟨e6, first, he⟩
    obtain ⟨segments, hpart, hmap⟩ := Option.bind_eq_some_iff.mp he
    obtain ⟨octets, hv4, rfl⟩ := Option.map_eq_some_iff.mp hmap
    obtain ⟨e4, first4, haddr⟩ := firstV4_eq_some_iff.mp hv4
    exact ⟨e6, e4, first.congr candidate, first4, haddr, (v6Part_eq_some_iff.mp hpart).2.1, rfl⟩
  · rintro ⟨e6, e4, first, first4, joins⟩
    refine ⟨e6, first.congr fun ia => (candidate ia).symm, ?_⟩
    obtain ⟨loopback, ⟨segments, haddr, passes⟩, -⟩ := first.holds
    have hv6 := joins.v6
    rw [haddr] at hv6
    cases hv6
    rw [v6Part_eq_some_iff.mpr ⟨loopback, haddr, passes⟩, Option.bind_some,
      firstV4_eq_some_iff.mpr ⟨e4, first4, joins.v4⟩, Option.map_some, ← joins.index]

theorem interfaceCandidate_eq_none (h : interfaceCandidate all v6Filter = none) :
    ∀ ia ∈ all, ¬ Candidate all v6Filter ia := by
  intro ia hia candidate
  obtain ⟨e6, first⟩ := exists_first ⟨ia, hia, candidate⟩
  obtain ⟨-, ⟨segments, haddr, -⟩, hv4⟩ := first.holds
  obtain ⟨e4, first4⟩ := exists_first hv4
  obtain ⟨-, octets, haddr4⟩ := first4.holds
  have found := interfaceCandidate_eq_some_iff.mpr ⟨e6, e4, first, first4,
    (⟨haddr4, haddr, rfl⟩ : Joins (octets, segments, e6.index.getD 0) e4 e6)⟩
  rw [h] at found
  cases found

end Candidate

/-! ## The interface that is picked -/

abbrev Found := Vector UInt8 4 × Vector UInt16 8 × UInt32

/-- Given this list of addresses, the program returns `r`. -/
def Picks (all : List Interface) (r : Except Failure Found) : Prop :=
  ∃ next, pickInterface.run = .call .interfaces next ∧ next (.ok all) = .done r

/-- What the program does with the list. -/
def pickFrom (all : List Interface) : Except Failure Found :=
  match (interfaceCandidate all isLinkLocal).or (interfaceCandidate all fun _ => true) with
  | some found => .ok found
  | none => .error (.message "no network interface with IPv4 + IPv6 found for mDNS")

theorem picks_iff {all : List Interface} {r : Except Failure Found} : Picks all r ↔ r = pickFrom all := by
  have hrun : ∃ next, pickInterface.run = .call .interfaces next ∧ next (.ok all) = .done (pickFrom all) := by
    unfold pickInterface
    rw [Effect.run_bind, Effect.run_bind, run_ask]
    refine ⟨_, rfl, ?_⟩
    simp only [Program.bind, continueWith_ok, run_orFail_ok, pickFrom]
    cases (interfaceCandidate all isLinkLocal).or (interfaceCandidate all fun _ => true) <;> rfl
  obtain ⟨next, hrun, hnext⟩ := hrun
  constructor
  · rintro ⟨next', hrun', hnext'⟩
    rw [hrun] at hrun'
    cases hrun'
    rw [hnext] at hnext'
    cases hnext'
    rfl
  · rintro rfl
    exact ⟨next, hrun, hnext⟩

/-- The name has an IPv6 address that passes the filter and an IPv4 address, neither a loopback address. -/
def OffersLan (all : List Interface) (v6Filter : Vector UInt16 8 → Bool) (name : String) : Prop :=
  (∃ e6 ∈ all, e6.name = name ∧ e6.loopback = false ∧
    ∃ segments, e6.addr = .v6 segments ∧ v6Filter segments = true) ∧
  ∃ e4 ∈ all, e4.name = name ∧ e4.loopback = false ∧ ∃ octets, e4.addr = .v4 octets

/-- What is promised of the result. -/
structure PicksLan (all : List Interface) (r : Except Failure Found) : Prop where
  chosen : ∀ found, r = .ok found → ∃ e4 ∈ all, ∃ e6 ∈ all, Joins found e4 e6 ∧ e4.name = e6.name ∧
    e4.loopback = false ∧ e6.loopback = false
  preferred : ∀ found, r = .ok found → (∃ name, OffersLan all isLinkLocal name) →
    isLinkLocal found.2.1 = true
  refused : (∃ e, r = .error e) ↔ ∀ name, ¬ OffersLan all (fun _ => true) name

/-- The IPv6 entry that decides: the first candidate, among the link-local ones if there are any. -/
def Decides (all : List Interface) (e6 : Interface) : Prop :=
  First (Candidate all isLinkLocal) all e6 ∨
    ((∀ ia ∈ all, ¬ Candidate all isLinkLocal ia) ∧ First (Candidate all fun _ => true) all e6)

/-- Under the name of the entry that decides, a loopback IPv4 address comes first. -/
def LoopbackFirst (all : List Interface) : Prop :=
  ∃ e6 e4, Decides all e6 ∧ First (V4Of e6.name) all e4 ∧ e4.loopback = true

section Pick

variable {all : List Interface} {found : Found}

/-- What is picked joins the entry that decides and the first IPv4 entry of its name. -/
theorem candidates_eq_some
    (h : (interfaceCandidate all isLinkLocal).or (interfaceCandidate all fun _ => true) = some found) :
    ∃ e6 e4, Decides all e6 ∧ First (V4Of e6.name) all e4 ∧ Joins found e4 e6 := by
  rcases Option.or_eq_some_iff.mp h with hlocal | ⟨hnone, hany⟩
  · obtain ⟨e6, e4, first, first4, joins⟩ := interfaceCandidate_eq_some_iff.mp hlocal
    exact ⟨e6, e4, .inl first, first4, joins⟩
  · obtain ⟨e6, e4, first, first4, joins⟩ := interfaceCandidate_eq_some_iff.mp hany
    exact ⟨e6, e4, .inr ⟨interfaceCandidate_eq_none hnone, first⟩, first4, joins⟩

theorem Decides.candidate {e6 : Interface} (h : Decides all e6) :
    Candidate all (fun _ => true) e6 := by
  rcases h with first | ⟨-, first⟩
  · obtain ⟨loopback, ⟨segments, haddr, -⟩, hv4⟩ := first.holds
    exact ⟨loopback, ⟨segments, haddr, rfl⟩, hv4⟩
  · exact first.holds

theorem Decides.mem {e6 : Interface} (h : Decides all e6) : e6 ∈ all := by
  rcases h with first | ⟨-, first⟩
  · exact first.mem
  · exact first.mem

theorem Decides.unique {e6 e6' : Interface} (h : Decides all e6) (h' : Decides all e6') : e6 = e6' := by
  rcases h with first | ⟨hnone, first⟩
  · rcases h' with first' | ⟨hnone', -⟩
    · exact first.unique first'
    · exact absurd first.holds (hnone' e6 first.mem)
  · rcases h' with first' | ⟨-, first'⟩
    · exact absurd first'.holds (hnone e6' first'.mem)
    · exact first.unique first'

/-- A name with both kinds of addresses has a candidate. -/
theorem OffersLan.candidate {v6Filter : Vector UInt16 8 → Bool} {name : String}
    (h : OffersLan all v6Filter name) : ∃ ia ∈ all, Candidate all v6Filter ia := by
  obtain ⟨⟨e6, he6, rfl, loopback, hv6⟩, e4, he4, hname, -, hv4⟩ := h
  exact ⟨e6, he6, loopback, hv6, e4, he4, hname, hv4⟩

/-- **A real LAN interface is picked**, or there is an error because there is none, exactly of lists in which
the IPv4 address that is taken is not a loopback address. -/
theorem pickInterface_right_iff (judged : JudgedPerAddress all) :
    (∃ r, Picks all r ∧ PicksLan all r) ↔ ¬ LoopbackFirst all := by
  simp only [picks_iff, exists_eq_left, pickFrom]
  cases h : (interfaceCandidate all isLinkLocal).or (interfaceCandidate all fun _ => true) with
  | none =>
      obtain ⟨hlocal, hany⟩ := Option.or_eq_none_iff.mp h
      refine iff_of_true ⟨nofun, nofun, iff_of_true ⟨_, rfl⟩ fun name lan => ?_⟩ ?_
      · obtain ⟨ia, hia, candidate⟩ := lan.candidate
        exact interfaceCandidate_eq_none hany ia hia candidate
      · rintro ⟨e6, e4, decides, -⟩
        exact interfaceCandidate_eq_none hany e6 decides.mem decides.candidate
  | some found =>
      obtain ⟨e6, e4, decides, first4, joins⟩ := candidates_eq_some h
      constructor
      · rintro right ⟨e6', e4', decides', first4', loopback⟩
        obtain rfl := decides.unique decides'
        obtain rfl := first4.unique first4'
        obtain ⟨e4', he4', e6', -, joins', -, outside, -⟩ := right.chosen found rfl
        -- the address alone says whether it is a loopback address
        have same : e4.loopback = e4'.loopback := by
          rw [judged e4 first4.mem, judged e4' he4', joins.v4, joins'.v4]
        rw [loopback, outside] at same
        cases same
      · intro outside
        have hname : e4.name = e6.name := first4.holds.1
        have hv4 : e4.loopback = false := by
          cases hloopback : e4.loopback with
          | false => rfl
          | true => exact absurd ⟨e6, e4, decides, first4, hloopback⟩ outside
        have hv6 : e6.loopback = false := decides.candidate.1
        refine ⟨?_, ?_, ?_⟩
        · intro found' hfound
          cases hfound
          exact ⟨e4, first4.mem, e6, decides.mem, joins, hname, hv4, hv6⟩
        · rintro found' hfound ⟨name, lan⟩
          cases hfound
          obtain ⟨ia, hia, candidate⟩ := lan.candidate
          rcases decides with first | ⟨hnone, -⟩
          · obtain ⟨-, ⟨segments, haddr, passes⟩, -⟩ := first.holds
            rw [joins.v6] at haddr
            cases haddr
            exact passes
          · exact absurd candidate (hnone ia hia)
        · refine iff_of_false ?_ fun h => h e6.name ⟨?_, ?_⟩
          · rintro ⟨e, he⟩
            cases he
          · obtain ⟨-, hseg, -⟩ := decides.candidate
            exact ⟨e6, decides.mem, rfl, hv6, hseg⟩
          · exact ⟨e4, first4.mem, hname, hv4, first4.holds.2⟩

end Pick

/-! ## The loopback interface of macOS -/

/-- `lo0`, which has a link-local address next to the two loopback addresses. -/
def loopbackEntries : List Interface :=
  [⟨"lo0", some 1, .v4 #v[127, 0, 0, 1], true⟩,
    ⟨"lo0", some 1, .v6 #v[0, 0, 0, 0, 0, 0, 0, 1], true⟩,
    ⟨"lo0", some 1, .v6 #v[0xfe80, 0, 0, 0, 0, 0, 0, 1], false⟩]

/-- A LAN interface after it. -/
def lanEntries : List Interface :=
  [⟨"en0", some 4, .v6 #v[0xfe80, 0, 0, 0, 0, 0, 0, 0x42], false⟩,
    ⟨"en0", some 4, .v4 #v[192, 168, 1, 20], false⟩]

theorem judged_loopbackEntries : JudgedPerAddress (loopbackEntries ++ lanEntries) := by
  unfold JudgedPerAddress
  decide

theorem judged_lanEntries : JudgedPerAddress lanEntries := by
  unfold JudgedPerAddress
  decide

/-- With `lo0` in the list, its link-local address is taken for that of a LAN interface. -/
theorem loopback_interface_picked : JudgedPerAddress (loopbackEntries ++ lanEntries) ∧
    Picks (loopbackEntries ++ lanEntries)
      (.ok (#v[127, 0, 0, 1], #v[0xfe80, 0, 0, 0, 0, 0, 0, 1], 1)) ∧
    ¬ ∃ r, Picks (loopbackEntries ++ lanEntries) r ∧ PicksLan (loopbackEntries ++ lanEntries) r := by
  have picked : pickFrom (loopbackEntries ++ lanEntries) =
      .ok (#v[127, 0, 0, 1], #v[0xfe80, 0, 0, 0, 0, 0, 0, 1], 1) := by decide +kernel
  refine ⟨judged_loopbackEntries, picks_iff.mpr picked.symm, ?_⟩
  rintro ⟨r, picks, right⟩
  obtain ⟨e4, he4, e6, -, joins, -, outside, -⟩ := right.chosen _ ((picks_iff.mp picks).trans picked)
  rw [judged_loopbackEntries e4 he4, joins.v4] at outside
  exact absurd outside (by decide)

theorem lan_interface_picked_iff : (∃ r, Picks lanEntries r ∧ PicksLan lanEntries r) ↔
    ¬ LoopbackFirst lanEntries := pickInterface_right_iff judged_lanEntries

end MatterTimeCtl
