import Ip2unix.Ownership
import Ip2unix.Names
import Ip2unix.MakeUnix

/-!
# Ip2unix — the redirection

What ip2unix is for: an IP `connect`, `sendto` or `bind` is carried out on a UNIX socket, at
the path the rule's template gives for the IP address, while the application keeps seeing the
IP address. `Names` states the second half for every run; this module states the first, for
the methods that pick the UNIX address, through every code path that succeeds.

* **`Socket.connect_redirects`**: when `connect(addr)` returns `0`, the descriptor is
  connected to the UNIX address of `format_sockpath(path, addr)`, and `getpeername` reports
  `addr`. A datagram socket without a binding gets there through `rewrite_dest`, which first
  binds it to a blackhole; any other socket directly, after `make_unix`.
* **`Socket.rewriteDest_redirects`**: a datagram `sendto(addr)` goes to the UNIX address of
  `format_sockpath(path, addr)`; a socket without a binding is first bound to a blackhole and
  given a binding by `create_binding`, so the peer can tell it apart.
* **`Socket.bind_redirects`**: when `bind(addr)` returns `0`, `getsockname` reports the
  address asked for (port `0` filled in), and the descriptor is bound either to the UNIX
  address of `format_sockpath(path, newaddr)`, a path the registry now holds and the socket
  records as its own, or, on a blackholed socket or a path already held, to a blackhole.
* **`Socket.bind_succeeds`**: the converse for `bind`. When its real calls succeed on a socket
  not bound yet, and the UNIX address it binds to fits `sun_path`, it returns `0`: it has no
  failure of its own.
* **`Socket.client_meets_server`**: the two compose. A client that connects, under the
  server's template, to the name the server reports is connected to the UNIX address the
  server is bound to, since the client's `connect` leaves the server's descriptor alone.

`connect_post` and `bind_post` state each method's postcondition once; the theorems above
read it off.
-/

namespace Ip2unix

namespace Sys

/-- `real::bind` succeeds on a descriptor whose socket is not bound yet. -/
theorem realBind_of_unbound {o : Outcomes} {k : Sys} {fd : Nat} {obj : SockObj} (addr : SockAddr)
    (hobj : k.obj fd = some obj) (hb : obj.boundTo = none) (hbind : o.bind = .ok ()) :
    ∃ k', k.realBind o fd addr = .ok k' := by
  obtain ⟨id, hfd, hid⟩ := Option.bind_eq_some.1 hobj
  simp only [realBind, lookup_eq_some.2 ⟨hfd, hid⟩, hb, hbind, Option.isSome_none,
    Bool.false_eq_true, if_false]
  exact ⟨_, rfl⟩

end Sys

namespace Socket

variable (pool : Pool) (o : Outcomes) (s : Socket) (k : Sys)

/-! ### `connect` -/

/-- `rewrite_dest` sends to the UNIX address of the path the template gives for `addr`. -/
theorem rewriteDest_dest (addr : SockAddr) (path : String) {dest : SockAddr}
    (h : (s.rewriteDest pool o addr path k).1 = some dest) :
    SockAddr.unix (formatSockpath s.type path addr) = some dest := by
  rw [rewriteDest] at h
  split at h
  · cases h
  split at h
  · cases h
  rename_i destpath hdp
  repeat' split at h
  all_goals first
    | exact hdp.trans h
    | cases h

/-- What `connect(addr)` leaves when it returns `0`: the template's path for `addr` fits
`sun_path`, the descriptor is connected to its UNIX address, and the peer is `addr`. -/
theorem connect_post (addr : SockAddr) (path : String)
    (hret : (s.connect pool o addr path k).1 = 0) :
    ∃ dest, SockAddr.unix (formatSockpath s.type path addr) = some dest ∧
      (s.connect pool o addr path k).2.2.connectedAt s.fd = some dest ∧
      (s.connect pool o addr path k).2.1.connection = some addr := by
  rw [connect] at hret ⊢
  by_cases hudp : s.type = .udp ∧ s.binding = none
  · -- a datagram socket without binding: `rewrite_dest` finds the destination
    rw [if_pos hudp] at hret ⊢
    have hd := fun dest => @rewriteDest_dest pool o s k addr path dest
    have hfd := (rewriteDest_frame pool o s k addr path).fd
    generalize s.rewriteDest pool o addr path k = r at hd hfd hret ⊢
    rcases r with ⟨_ | dest, s₁, k₁⟩
    · simp at hret
    dsimp only at hd hfd hret ⊢
    cases hc : k₁.realConnect o s₁.fd dest with
    | error err => simp [hc] at hret
    | ok k₂ =>
      exact ⟨dest, hd dest rfl, hfd ▸ Sys.realConnect_connectedAt hc, rfl⟩
  · rw [if_neg hudp] at hret ⊢
    dsimp only at hret ⊢
    cases hdest : SockAddr.unix (formatSockpath s.type path addr) with
    | none => simp [hdest] at hret
    | some dest =>
      simp only [hdest] at hret ⊢
      have hm := makeUnix_sock o s k none
      generalize s.makeUnix o none k = m at hm hret ⊢
      rcases m with ⟨_ | _, s₁, k₁⟩
      · simp at hret
      dsimp only at hm hret ⊢
      have hfd : s₁.fd = s.fd := by rw [hm]
      cases hp : addr.getPort with
      | none => simp [hp] at hret
      | some remotePort =>
        simp only [hp] at hret ⊢
        cases hc : k₁.realConnect o s₁.fd dest with
        | error err => simp [hc] at hret
        | ok k₂ =>
          simp only [hc] at hret ⊢
          -- the descriptor is connected through `k₂`, whatever `create_binding` does
          have hat : k₂.connectedAt s.fd = some dest := hfd ▸ Sys.realConnect_connectedAt hc
          by_cases hn : s₁.binding.isNone = true
          · rw [if_pos hn] at hret ⊢
            generalize s₁.createBinding pool addr k₂ = cb at hret ⊢
            rcases cb with ⟨_ | _, s₂⟩
            · simp at hret
            · exact ⟨dest, rfl, hat, rfl⟩
          · rw [if_neg hn]
            exact ⟨dest, rfl, hat, rfl⟩

/-- **`connect` redirects.** When `connect(addr)` returns `0`, the socket's descriptor is
connected to the UNIX address of the path the rule's template gives for `addr`, and the
application sees `addr` as its peer. -/
theorem connect_redirects (addr : SockAddr) (path : String)
    (hret : (s.connect pool o addr path k).1 = 0) :
    (s.connect pool o addr path k).2.2.connectedAt s.fd =
        SockAddr.unix (formatSockpath s.type path addr) ∧
      (s.connect pool o addr path k).2.1.connection = some addr := by
  obtain ⟨dest, hu, hat, hc⟩ := connect_post pool o s k addr path hret
  exact ⟨hat.trans hu.symm, hc⟩

/-- A stream socket at `3` connecting to `127.0.0.1:80` under the template `/run/%p.sock`,
every real call succeeding: `connect` returns `0`, and the template gives `/run/80.sock`. -/
theorem connect_to_port_80 :
    let s := Socket.new 0 3 .inet sockStream 0
    let k := (Sys.init (fun _ => none) (fun _ => none) 0 ⟨1000, 1000, 42⟩).openObj 3 .ip none
    let o := Outcomes.allOk 4 "/tmp/bh0" ⟨1000, 1000, 43⟩ 7
    let pool := Pool.firstFit 32768 60999
    formatSockpath s.type "/run/%p.sock" (.ip .inet 0x7f000001 80) = "/run/80.sock" ∧
    (s.connect pool o (.ip .inet 0x7f000001 80) "/run/%p.sock" k).1 = 0 ∧
    (s.connect pool o (.ip .inet 0x7f000001 80) "/run/%p.sock" k).2.2.connectedAt s.fd =
        SockAddr.unix (formatSockpath s.type "/run/%p.sock" (.ip .inet 0x7f000001 80)) ∧
      (s.connect pool o (.ip .inet 0x7f000001 80) "/run/%p.sock" k).2.1.connection =
        some (.ip .inet 0x7f000001 80) :=
  ⟨by decide, by decide, connect_redirects _ _ _ _ _ _ (by decide)⟩

/-! ### `rewrite_dest` -/

/-- The end of `bind`, when it returns `0`: the arm returned `0`, and the socket is bound and
named `newaddr`, the rest as the arm left it. -/
theorem bindFinish_ok {newaddr : SockAddr} {port : Option Nat} {ret : Int}
    (h : (bindFinish newaddr port ret s k).1 = 0) :
    ret = 0 ∧ (bindFinish newaddr port ret s k).2.2 = k ∧
      (bindFinish newaddr port ret s k).2.1.binding = some newaddr ∧
      (bindFinish newaddr port ret s k).2.1.sockpath = s.sockpath ∧
      (bindFinish newaddr port ret s k).2.1.isBlackhole = s.isBlackhole := by
  by_cases hr : ret = 0
  · subst hr
    simp [bindFinish]
  · rw [bindFinish_of_ne s k ret hr] at h
    exact absurd h hr

/-- The blackhole arm, when it returns `0`: bound to the blackhole's path, marked, the registry
left alone, and the path unlinked as the arm's `BlackHole` goes out of scope. -/
theorem bindBlackhole_ok (h : (s.bindBlackhole o k).1 = 0) :
    ∃ bh, o.blackhole = some bh ∧ (s.bindBlackhole o k).2.1 = { s with isBlackhole := true } ∧
      (s.bindBlackhole o k).2.2.boundAt s.fd = SockAddr.unix bh ∧
      (s.bindBlackhole o k).2.2.sockpathRegistry = k.sockpathRegistry ∧
      (s.bindBlackhole o k).2.2.unlinked = k.unlinked ++ [bh] := by
  unfold bindBlackhole at h ⊢
  cases hbh : o.blackhole with
  | none => simp [hbh] at h
  | some bh =>
    cases hu : SockAddr.unix bh with
    | none => simp [hbh, hu] at h
    | some dest =>
      cases hbind : k.realBind o s.fd dest with
      | error err => simp [hbh, hu, hbind] at h
      | ok k' =>
        have hfo := Sys.realBind_fdsOnly hbind
        refine ⟨bh, rfl, ?_, ?_, ?_, ?_⟩ <;>
          simp only [hbh, hu, hbind, Sys.boundAt_unlink, Sys.unlink_sockpathRegistry,
            Sys.unlink_unlinked, hfo.registry, hfo.unlinked]
        exact (Sys.realBind_boundAt hbind :)

/-- The path arm, when it returns `0`: bound to the path, which the socket records and the
registry now holds. -/
theorem bindPath_ok {newpath : String} (h : (s.bindPath o newpath k).1 = 0) :
    (s.bindPath o newpath k).2.1 = { s with sockpath := some newpath } ∧
      (s.bindPath o newpath k).2.2.boundAt s.fd = SockAddr.unix newpath ∧
      (s.bindPath o newpath k).2.2.sockpathRegistry =
        Function.update k.sockpathRegistry newpath true := by
  unfold bindPath at h ⊢
  cases hu : SockAddr.unix newpath with
  | none => simp [hu] at h
  | some dest =>
    cases hbind : k.realBind o s.fd dest with
    | error err => simp [hu, hbind] at h
    | ok k' =>
      refine ⟨?_, ?_, ?_⟩ <;> simp only [hu, hbind, (Sys.realBind_fdsOnly hbind).registry]
      exact (Sys.realBind_boundAt hbind : k'.boundAt s.fd = some dest)

/-- What `bind(addr)` leaves when it returns `0`. The socket is named `newaddr`, the address
asked for with port `0` replaced by the port the pool gives next. The path arm ran when the
socket is not blackholed and the template's path for `newaddr` is free, the blackhole arm
otherwise; each with what it did. -/
theorem bind_post (addr : SockAddr) (path : String)
    (hret : (s.bind pool o addr path k).1 = 0) :
    ∃ newaddr, newaddr = addr.fillPort (pool.pick s.ports.reserved) ∧
      (s.bind pool o addr path k).2.1.binding = some newaddr ∧
      (((s.isBlackhole || k.hasSockpath (formatSockpath s.type path newaddr)) = false ∧
          (s.bind pool o addr path k).2.1.sockpath = some (formatSockpath s.type path newaddr) ∧
          (s.bind pool o addr path k).2.2.boundAt s.fd =
            SockAddr.unix (formatSockpath s.type path newaddr) ∧
          (s.bind pool o addr path k).2.2.sockpathRegistry =
            Function.update k.sockpathRegistry (formatSockpath s.type path newaddr) true) ∨
        ((s.isBlackhole || k.hasSockpath (formatSockpath s.type path newaddr)) = true ∧
          (s.bind pool o addr path k).2.1.isBlackhole = true ∧
          ∃ bh, o.blackhole = some bh ∧
            (s.bind pool o addr path k).2.2.boundAt s.fd = SockAddr.unix bh ∧
            (s.bind pool o addr path k).2.2.sockpathRegistry = k.sockpathRegistry ∧
            (s.bind pool o addr path k).2.2.unlinked = k.unlinked ++ [bh])) := by
  have hm := makeUnix_sock o s k none
  have hfo := makeUnix_fdsOnly o s k none
  rw [bind] at hret ⊢
  generalize s.makeUnix o none k = m at hm hfo hret ⊢
  rcases m with ⟨_ | _, s₁, k₁⟩
  · simp at hret
  dsimp only at hm hfo hret ⊢
  have hb := bindPort_fst pool s₁ addr
  have hkept := (bindPort_kept pool s₁ k₁ addr).sock
  generalize s₁.bindPort pool addr = b at hb hkept hret ⊢
  rcases b with ⟨newaddr, port, s₂⟩
  dsimp only at hb hkept hret ⊢
  -- the switch and the port-0 step leave what the arms read
  have hfd : s₂.fd = s.fd := by rw [hkept, hm]
  have htype : s₂.type = s.type := by rw [hkept, hm]
  have hcond : (s₂.isBlackhole || k₁.hasSockpath (formatSockpath s₂.type path newaddr)) =
      (s.isBlackhole || k.hasSockpath (formatSockpath s.type path newaddr)) := by
    rw [hkept, hm]
    simp only [Sys.hasSockpath, hfo.registry]
  refine ⟨newaddr, by rw [hb, hm], ?_⟩
  by_cases hc : (s.isBlackhole || k.hasSockpath (formatSockpath s.type path newaddr)) = true
  · -- to a blackhole
    rw [if_pos (hcond.trans hc)] at hret ⊢
    have hbb := bindBlackhole_ok o s₂ k₁
    generalize s₂.bindBlackhole o k₁ = r at hbb hret ⊢
    rcases r with ⟨ret, s₃, k₃⟩
    dsimp only at hbb hret ⊢
    obtain ⟨hr, hk, hbinding, -, hbh⟩ := bindFinish_ok s₃ k₃ hret
    obtain ⟨bh, hobh, hs₃, hat, hreg, hunl⟩ := hbb hr
    refine ⟨hbinding, .inr ⟨hc, hbh.trans (by rw [hs₃]), bh, hobh, ?_⟩⟩
    rw [hk, ← hfd, hreg, hfo.registry, hunl, hfo.unlinked]
    exact ⟨hat, rfl, rfl⟩
  · -- to the path the template gives
    rw [if_neg fun h => hc (hcond.symm.trans h), htype] at hret ⊢
    have hbp := @bindPath_ok o s₂ k₁ (formatSockpath s.type path newaddr)
    generalize s₂.bindPath o (formatSockpath s.type path newaddr) k₁ = r at hbp hret ⊢
    rcases r with ⟨ret, s₃, k₃⟩
    dsimp only at hbp hret ⊢
    obtain ⟨hr, hk, hbinding, hsp, -⟩ := bindFinish_ok s₃ k₃ hret
    obtain ⟨hs₃, hat, hreg⟩ := hbp hr
    refine ⟨hbinding, .inl ⟨by simpa using hc, hsp.trans (by rw [hs₃]), ?_⟩⟩
    rw [hk, ← hfd, hreg, hfo.registry]
    exact ⟨hat, rfl⟩

/-- **`bind` redirects.** When `bind(addr)` returns `0`, the application sees the socket
named `newaddr`: the address it asked for, with port `0` replaced by the port the socket's
pool gives next. When the socket is not blackholed and the path the rule's template gives for
`newaddr` is free, the descriptor is bound to that path's UNIX address, which the socket
records and the registry now holds. Otherwise it is marked a blackhole and bound to the path
of a `BlackHole`, which is unlinked again, the registry untouched. -/
theorem bind_redirects (addr : SockAddr) (path : String)
    (hret : (s.bind pool o addr path k).1 = 0) :
    ∃ newaddr, newaddr = addr.fillPort (pool.pick s.ports.reserved) ∧
      (s.bind pool o addr path k).2.1.binding = some newaddr ∧
      (((s.isBlackhole || k.hasSockpath (formatSockpath s.type path newaddr)) = false ∧
          (s.bind pool o addr path k).2.1.sockpath = some (formatSockpath s.type path newaddr) ∧
          (s.bind pool o addr path k).2.2.boundAt s.fd =
            SockAddr.unix (formatSockpath s.type path newaddr) ∧
          (s.bind pool o addr path k).2.2.sockpathRegistry =
            Function.update k.sockpathRegistry (formatSockpath s.type path newaddr) true) ∨
        ((s.isBlackhole || k.hasSockpath (formatSockpath s.type path newaddr)) = true ∧
          (s.bind pool o addr path k).2.1.isBlackhole = true ∧
          ∃ bh, o.blackhole = some bh ∧
            (s.bind pool o addr path k).2.2.boundAt s.fd = SockAddr.unix bh ∧
            (s.bind pool o addr path k).2.2.sockpathRegistry = k.sockpathRegistry ∧
            (s.bind pool o addr path k).2.2.unlinked = k.unlinked ++ [bh])) :=
  bind_post pool o s k addr path hret

/-- A stream socket at `3` bound to `127.0.0.1:0` under the template `/run/%p.sock`, every
real call succeeding: `bind` returns `0`, naming the socket with the pool's first port. -/
theorem bind_to_port_zero :
    let s := Socket.new 0 3 .inet sockStream 0
    let k := (Sys.init (fun _ => none) (fun _ => none) 0 ⟨1000, 1000, 42⟩).openObj 3 .ip none
    let o := Outcomes.allOk 4 "/tmp/bh0" ⟨1000, 1000, 43⟩ 7
    let pool := Pool.firstFit 32768 60999
    let addr := SockAddr.ip .inet 0x7f000001 0
    (s.bind pool o addr "/run/%p.sock" k).1 = 0 ∧
    (s.bind pool o addr "/run/%p.sock" k).2.1.binding = some (.ip .inet 0x7f000001 32768) ∧
    ∃ newaddr, newaddr = addr.fillPort (pool.pick s.ports.reserved) ∧
      (s.bind pool o addr "/run/%p.sock" k).2.1.binding = some newaddr ∧
      (((s.isBlackhole || k.hasSockpath (formatSockpath s.type "/run/%p.sock" newaddr)) =
            false ∧
          (s.bind pool o addr "/run/%p.sock" k).2.1.sockpath =
            some (formatSockpath s.type "/run/%p.sock" newaddr) ∧
          (s.bind pool o addr "/run/%p.sock" k).2.2.boundAt s.fd =
            SockAddr.unix (formatSockpath s.type "/run/%p.sock" newaddr) ∧
          (s.bind pool o addr "/run/%p.sock" k).2.2.sockpathRegistry =
            Function.update k.sockpathRegistry (formatSockpath s.type "/run/%p.sock" newaddr)
              true) ∨
        ((s.isBlackhole || k.hasSockpath (formatSockpath s.type "/run/%p.sock" newaddr)) =
            true ∧
          (s.bind pool o addr "/run/%p.sock" k).2.1.isBlackhole = true ∧
          ∃ bh, o.blackhole = some bh ∧
            (s.bind pool o addr "/run/%p.sock" k).2.2.boundAt s.fd = SockAddr.unix bh ∧
            (s.bind pool o addr "/run/%p.sock" k).2.2.sockpathRegistry = k.sockpathRegistry ∧
            (s.bind pool o addr "/run/%p.sock" k).2.2.unlinked = k.unlinked ++ [bh])) :=
  ⟨by decide, by decide, bind_redirects _ _ _ _ _ _ (by decide)⟩

/-! ### When `bind` succeeds -/

/-- `make_unix(-1)` succeeds when its real calls do, and leaves the descriptor on a socket that
is not bound: the new UNIX socket, or, on a socket switched before, the one the caller says is
not bound. -/
theorem makeUnix_unbound {newfd : Nat} (hsock : o.socket = .ok newfd) (hrep : o.replay = .ok ())
    (hdup : o.dup2 = .ok ())
    (hfree : s.isUnix = true → ∃ obj, k.obj s.fd = some obj ∧ obj.boundTo = none) :
    (s.makeUnix o none k).1 = true ∧
      ∃ obj, (s.makeUnix o none k).2.2.obj s.fd = some obj ∧ obj.boundTo = none := by
  by_cases hu : s.isUnix = true
  · rw [makeUnix_of_isUnix o s k hu]
    exact ⟨rfl, hfree hu⟩
  have hok : (s.makeUnix o none k).1 = true := by
    simp [makeUnix, hu, Sys.openUnix, Sys.realSocket, hsock, Sys.replay, Sys.lookup, Sys.openObj,
      hrep, Sys.realDup2, hdup]
  exact ⟨hok, _, makeUnix_obj o s k (by simpa using hu) hok, rfl⟩

/-- **`bind` fails only where a real call or a path does.** When every real call `bind` makes
succeeds, the descriptor's socket is not bound yet, and the UNIX address it is to be bound to
fits `sun_path` (that of the template's path for the address asked for, port `0` filled in,
or, on a blackholed socket or a path already held, that of a blackhole), `bind(addr)` returns
`0`. -/
theorem bind_succeeds (addr : SockAddr) (path : String) {newfd : Nat}
    (hsock : o.socket = .ok newfd) (hrep : o.replay = .ok ()) (hdup : o.dup2 = .ok ())
    (hbind : o.bind = .ok ())
    (hfree : s.isUnix = true → ∃ obj, k.obj s.fd = some obj ∧ obj.boundTo = none)
    (hfits : if (s.isBlackhole ||
        k.hasSockpath (formatSockpath s.type path (s.bindPort pool addr).1)) = true
      then ∃ bh, o.blackhole = some bh ∧ (SockAddr.unix bh).isSome = true
      else (SockAddr.unix (formatSockpath s.type path (s.bindPort pool addr).1)).isSome = true) :
    (s.bind pool o addr path k).1 = 0 := by
  obtain ⟨hok, obj, hobj, hunb⟩ := makeUnix_unbound o s k hsock hrep hdup hfree
  have hm := makeUnix_sock o s k none
  have hreg := (makeUnix_fdsOnly o s k none).registry
  rw [bind]
  generalize s.makeUnix o none k = m at hok hobj hm hreg ⊢
  rcases m with ⟨_ | _, s₁, k₁⟩
  · cases hok
  dsimp only at hobj hm hreg ⊢
  have hnew : (s₁.bindPort pool addr).1 = (s.bindPort pool addr).1 := by
    rw [hm]
    rcases hp : addr.getPort with _ | _ | n <;> simp [bindPort, hp]
  have hkept := (bindPort_kept pool s₁ k₁ addr).sock
  generalize s₁.bindPort pool addr = b at hnew hkept ⊢
  rcases b with ⟨newaddr, port, s₂⟩
  dsimp only at hnew hkept ⊢
  -- the port-0 step and the switch leave what the arms read
  have hfd : s₂.fd = s.fd := by rw [hkept, hm]
  have htype : s₂.type = s.type := by rw [hkept, hm]
  have hcond : (s₂.isBlackhole || k₁.hasSockpath (formatSockpath s₂.type path newaddr)) =
      (s.isBlackhole || k.hasSockpath (formatSockpath s.type path (s.bindPort pool addr).1)) := by
    rw [hkept, hm, hnew]
    simp only [Sys.hasSockpath, hreg]
  rw [← hfd] at hobj
  rw [hcond]
  split at hfits
  · -- to a blackhole
    rename_i hc
    rw [if_pos hc]
    obtain ⟨bh, hbhs, hfit⟩ := hfits
    obtain ⟨dest, hdest⟩ := Option.isSome_iff_exists.1 hfit
    obtain ⟨k₂, hk₂⟩ := Sys.realBind_of_unbound dest hobj hunb hbind
    simp [bindBlackhole, hbhs, hdest, hk₂, bindFinish]
  · -- to the template's path
    rename_i hc
    rw [if_neg hc]
    obtain ⟨dest, hdest⟩ := Option.isSome_iff_exists.1 hfits
    obtain ⟨k₂, hk₂⟩ := Sys.realBind_of_unbound dest hobj hunb hbind
    simp [bindPath, htype, hnew, hdest, hk₂, bindFinish]

/-- A new stream socket at `3` binds `127.0.0.1:8080` under `/run/%p.sock` when every real
call succeeds: the path `/run/8080.sock` fits `sun_path` and is not held yet. -/
theorem fresh_socket_binds :
    let s := Socket.new 0 3 .inet sockStream 0
    let k := (Sys.init (fun _ => none) (fun _ => none) 0 ⟨1000, 1000, 42⟩).openObj 3 .ip none
    let o := Outcomes.allOk 4 "/tmp/bh0" ⟨1000, 1000, 43⟩ 7
    let pool := Pool.firstFit 32768 60999
    (if (s.isBlackhole ||
        k.hasSockpath (formatSockpath s.type "/run/%p.sock"
          (s.bindPort pool (.ip .inet 0x7f000001 8080)).1)) = true
      then ∃ bh, o.blackhole = some bh ∧ (SockAddr.unix bh).isSome = true
      else (SockAddr.unix (formatSockpath s.type "/run/%p.sock"
        (s.bindPort pool (.ip .inet 0x7f000001 8080)).1)).isSome = true) ∧
    (s.bind pool o (.ip .inet 0x7f000001 8080) "/run/%p.sock" k).1 = 0 :=
  ⟨by decide, bind_succeeds _ _ _ _ _ _ rfl rfl rfl rfl (fun h => absurd h (by decide))
    (by decide)⟩

/-! ### Client and server -/

/-- **A client meets the server at its socket file.** A server socket binds to `addr` under
a rule's template and is not sent to a blackhole; a client socket of the same type, at another
descriptor, then connects under the same template to the name the server reports
(`getsockname`, its binding). When both calls return `0`, the client's descriptor is connected
to the UNIX address the server's descriptor is still bound to, that of the path the template
gives for the server's name. The client's new UNIX socket must not come out at the server's
descriptor, which a kernel does not hand out while it is open. -/
theorem client_meets_server (o' : Outcomes) (cli : Socket) (addr name : SockAddr)
    (path : String) (hk : k.IdsBelow) (htype : cli.type = s.type) (hfd : cli.fd ≠ s.fd)
    (hfresh : o'.socket ≠ .ok s.fd) (hbind : (s.bind pool o addr path k).1 = 0)
    (hbh : (s.bind pool o addr path k).2.1.isBlackhole = false)
    (hname : (s.bind pool o addr path k).2.1.binding = some name)
    (hconn : (cli.connect pool o' name path (s.bind pool o addr path k).2.2).1 = 0) :
    ∃ dest, SockAddr.unix (formatSockpath s.type path name) = some dest ∧
      (cli.connect pool o' name path (s.bind pool o addr path k).2.2).2.2.connectedAt cli.fd =
        some dest ∧
      (cli.connect pool o' name path (s.bind pool o addr path k).2.2).2.2.boundAt s.fd =
        some dest := by
  obtain ⟨dest, hu, hcon, -⟩ := connect_post pool o' cli _ name path hconn
  rw [htype] at hu
  -- the server took the path arm, under the name it reports
  have hsrv : (s.bind pool o addr path k).2.2.boundAt s.fd = some dest := by
    obtain ⟨newaddr, -, hb, ⟨-, -, hat, -⟩ | ⟨-, hbh', -⟩⟩ := bind_post pool o s k addr path hbind
    · rw [hname, Option.some_inj] at hb
      rw [hat, ← hb, hu]
    · rw [hbh] at hbh'
      cases hbh'
  -- the client's `connect` leaves the server's descriptor alone
  have hkeep := (connect_unixStep pool o' cli (s.bind pool o addr path k).2.2 name path).kinds
  refine ⟨dest, hu, hcon, hkeep.boundAt_eq ((bind_unixStep pool o s k addr path).kinds.ids hk)
    ?_ hsrv⟩
  rintro (h | ⟨h, -⟩)
  · exact hfresh h
  · exact hfd h.symm

/-- A stream server at `3` binds `127.0.0.1:0` under `/run/%p.sock` and gets port `32768`; a
stream client at `4` connects to `127.0.0.1:32768` under the same template; every real call
succeeds. -/
theorem client_reaches_port_32768 :
    let s := Socket.new 0 3 .inet sockStream 0
    let cli := Socket.new 1 4 .inet sockStream 0
    let k := ((Sys.init (fun _ => none) (fun _ => none) 0 ⟨1000, 1000, 42⟩).openObj 3 .ip
      none).openObj 4 .ip none
    let o := Outcomes.allOk 5 "/tmp/bh0" ⟨1000, 1000, 43⟩ 7
    let o' := Outcomes.allOk 6 "/tmp/bh1" ⟨1000, 1000, 43⟩ 7
    let pool := Pool.firstFit 32768 60999
    let name := SockAddr.ip .inet 0x7f000001 32768
    (s.bind pool o (.ip .inet 0x7f000001 0) "/run/%p.sock" k).1 = 0 ∧
    (cli.connect pool o' name "/run/%p.sock"
      (s.bind pool o (.ip .inet 0x7f000001 0) "/run/%p.sock" k).2.2).1 = 0 ∧
    ∃ dest, SockAddr.unix (formatSockpath s.type "/run/%p.sock" name) = some dest ∧
      (cli.connect pool o' name "/run/%p.sock"
        (s.bind pool o (.ip .inet 0x7f000001 0) "/run/%p.sock" k).2.2).2.2.connectedAt cli.fd =
        some dest ∧
      (cli.connect pool o' name "/run/%p.sock"
        (s.bind pool o (.ip .inet 0x7f000001 0) "/run/%p.sock" k).2.2).2.2.boundAt s.fd =
        some dest :=
  ⟨by decide, by decide, client_meets_server _ _ _ _ _ _ _ _ _
    ((Sys.kindsKept_openObj _ _ _ _).ids ((Sys.kindsKept_openObj _ _ _ _).ids
      fun _ _ h => (nomatch h)))
    rfl (by decide) (fun h => absurd (Except.ok.inj h) (by decide)) (by decide) (by decide)
    (by decide) (by decide)⟩

end Socket

end Ip2unix
