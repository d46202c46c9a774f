import Ip2unix.FormatSockpath

/-!
# Ip2unix — the port in a socket path

A rule's socket path is a template, and `%p` in it becomes the port of the address being
bound or connected to (`Socket::format_sockpath`). Whether two ports of one host get one
socket file or two is decided by the template alone: they share one exactly when the ports
are equal or the template expands no `%p` (`formatSockpath_port_eq_iff`). Under a template
with a `%p`, sockets of one rule bound to different ports never meet in one file; under one
without, they all name the same file, and the second `bind` finds the path taken.

The port's text is its decimal digits, `Nat.toDigits 10`, and those are injective
(`toDigits_injective`; the core library of this toolchain has no lemmas on them, so the
recursion of `Nat.toDigitsCore` is unfolded here once). Two expansions of one template
differ in length by the port texts' difference once per `%p` (`expand_length_port`), so
at the first `%p` the two port texts have one length, and are then the same digits.
-/

namespace Ip2unix

/-! ## Decimal digits -/

/-- One round of `Nat.toDigitsCore`: the last digit is put in front of those already written. -/
theorem toDigitsCore_succ (b fuel n : Nat) (ds : List Char) :
    Nat.toDigitsCore b (fuel + 1) n ds =
      if n / b = 0 then Nat.digitChar (n % b) :: ds
      else Nat.toDigitsCore b fuel (n / b) (Nat.digitChar (n % b) :: ds) := rfl

theorem toDigitsCore_append (b : Nat) :
    ∀ fuel n (ds : List Char),
      Nat.toDigitsCore b fuel n ds = Nat.toDigitsCore b fuel n [] ++ ds := by
  intro fuel
  induction fuel with
  | zero => intro _ _; rfl
  | succ fuel ih =>
    intro n ds
    simp only [toDigitsCore_succ]
    split
    · rfl
    · rw [ih _ (_ :: ds), ih _ [_], List.append_assoc]
      rfl

/-- Any fuel above the number gives the same digits. -/
theorem toDigitsCore_fuel :
    ∀ fuel fuel' n (ds : List Char), n < fuel → n < fuel' →
      Nat.toDigitsCore 10 fuel n ds = Nat.toDigitsCore 10 fuel' n ds := by
  intro fuel
  induction fuel with
  | zero => intro _ _ _ h; omega
  | succ fuel ih =>
    intro fuel' n ds h h'
    obtain ⟨fuel', rfl⟩ : ∃ k, fuel' = k + 1 := ⟨fuel' - 1, by omega⟩
    simp only [toDigitsCore_succ]
    split
    · rfl
    · exact ih _ _ _ (by omega) (by omega)

/-- The decimal digits of `n`: those of `n / 10`, unless it is zero, then the last one. -/
theorem toDigits_ten (n : Nat) :
    Nat.toDigits 10 n =
      (if n < 10 then [] else Nat.toDigits 10 (n / 10)) ++ [Nat.digitChar (n % 10)] := by
  show Nat.toDigitsCore 10 (n + 1) n [] = _
  rw [toDigitsCore_succ]
  split
  · rw [if_pos (show n < 10 by omega)]
    rfl
  · rw [if_neg (show ¬n < 10 by omega), toDigitsCore_append,
      toDigitsCore_fuel n (n / 10 + 1) (n / 10) [] (by omega) (by omega)]
    rfl

theorem toDigits_ne_nil (n : Nat) : Nat.toDigits 10 n ≠ [] := by
  rw [toDigits_ten]
  simp

theorem digitChar_injective : ∀ a < 10, ∀ b < 10, Nat.digitChar a = Nat.digitChar b → a = b := by
  decide

/-- Two numbers with the same decimal digits are equal. -/
theorem toDigits_injective : ∀ n m, Nat.toDigits 10 n = Nat.toDigits 10 m → n = m := by
  intro n
  induction n using Nat.strongRecOn with
  | ind n ih =>
    intro m h
    rw [toDigits_ten n, toDigits_ten m] at h
    obtain ⟨hhigh, hlow⟩ := List.append_inj' h rfl
    have hmod : n % 10 = m % 10 :=
      digitChar_injective _ (Nat.mod_lt _ (by decide)) _ (Nat.mod_lt _ (by decide))
        (List.singleton_inj.1 hlow)
    have hdiv : n / 10 = m / 10 := by
      split_ifs at hhigh with hn hm hm
      · omega
      · exact absurd hhigh.symm (toDigits_ne_nil _)
      · exact absurd hhigh (toDigits_ne_nil _)
      · exact ih _ (by omega) _ hhigh
    omega

theorem toString_data (n : Nat) : (toString n).data = Nat.toDigits 10 n := rfl

/-! ## Ports in a template -/

theorem SockAddr.getHost_ip (f : Family) (h p : Nat) :
    (SockAddr.ip f h p).getHost = some (f.hostText h) := rfl

theorem SockAddr.getPortStr_ip (f : Family) (h p : Nat) :
    (SockAddr.ip f h p).getPortStr = some (toString p) := rfl

/-- The number of `%p` in a template, read token by token as `expand` reads it. -/
def portSlots : List Char → Nat
  | [] => 0
  | '%' :: '%' :: r => portSlots r
  | '%' :: 'a' :: r => portSlots r
  | '%' :: 'p' :: r => portSlots r + 1
  | '%' :: 't' :: r => portSlots r
  | _ :: r => portSlots r

example : portSlots "/run/%%p-%p.%t".toList = 1 := by decide

section

variable (type : SocketType) (family : Family) (host : Nat)

/-- **Expansions under two ports differ in length once per `%p`.** -/
theorem expand_length_port (p q : Nat) (cs : List Char) :
    (expand type (.ip family host p) cs).length + portSlots cs * (toString q).length =
      (expand type (.ip family host q) cs).length + portSlots cs * (toString p).length := by
  induction cs using expand.induct type (.ip family host p) with
  | case1 => simp only [expand_nil, portSlots, Nat.zero_mul]
  | case2 r ih | case3 r ih | case5 r ih =>
    simp only [expand, portSlots, String.length_append, SockAddr.getHost_ip]
    omega
  | case4 r ih =>
    simp only [expand, portSlots, String.length_append, SockAddr.getPortStr_ip,
      Option.getD_some, Nat.add_mul, Nat.one_mul]
    omega
  | case6 c r h1 h2 h3 h4 ih =>
    simp only [expand.eq_6 _ _ c r h1 h2 h3 h4, portSlots.eq_6 c r h1 h2 h3 h4,
      String.length_append]
    omega

/-- A template without `%p` expands alike under every port. -/
theorem expand_port_eq (p q : Nat) (cs : List Char) (h : portSlots cs = 0) :
    expand type (.ip family host p) cs = expand type (.ip family host q) cs := by
  induction cs using expand.induct type (.ip family host p) with
  | case1 => rfl
  | case2 r ih | case3 r ih | case5 r ih =>
    simp only [expand, portSlots, SockAddr.getHost_ip] at h ⊢
    rw [ih h]
  | case4 r ih => exact absurd h (Nat.succ_ne_zero _)
  | case6 c r h1 h2 h3 h4 ih =>
    rw [portSlots.eq_6 c r h1 h2 h3 h4] at h
    rw [expand.eq_6 _ _ c r h1 h2 h3 h4, expand.eq_6 _ _ c r h1 h2 h3 h4, ih h]

/-- A template with a `%p` tells the port back from the expansion. -/
theorem expand_port_injective (p q : Nat) (cs : List Char) (hn : 0 < portSlots cs)
    (h : expand type (.ip family host p) cs = expand type (.ip family host q) cs) : p = q := by
  induction cs using expand.induct type (.ip family host p) with
  | case1 => exact absurd hn (Nat.lt_irrefl 0)
  | case2 r ih | case3 r ih | case5 r ih =>
    simp only [expand, portSlots, SockAddr.getHost_ip] at hn h
    exact ih hn (String.ext (List.append_cancel_left (congrArg String.data h)))
  | case4 r _ =>
    have hl := expand_length_port type family host p q r
    have hlen := congrArg String.length h
    simp only [expand, String.length_append, SockAddr.getPortStr_ip, Option.getD_some] at h hlen
    have hsame : (toString p).length = (toString q).length := by
      rcases Nat.lt_trichotomy (toString p).length (toString q).length with hlt | heq | hgt
      · have := Nat.mul_le_mul_left (portSlots r) (Nat.le_of_lt hlt)
        omega
      · exact heq
      · have := Nat.mul_le_mul_left (portSlots r) (Nat.le_of_lt hgt)
        omega
    have hdata := (List.append_inj (congrArg String.data h) hsame).1
    exact toDigits_injective _ _ ((toString_data p).symm.trans (hdata.trans (toString_data q)))
  | case6 c r h1 h2 h3 h4 ih =>
    rw [portSlots.eq_6 c r h1 h2 h3 h4] at hn
    rw [expand.eq_6 _ _ c r h1 h2 h3 h4, expand.eq_6 _ _ c r h1 h2 h3 h4] at h
    exact ih hn (String.ext (List.append_cancel_left (congrArg String.data h)))

end

/-- **Two ports of one host share a socket path exactly when they are equal or the template
has no `%p`.** -/
theorem formatSockpath_port_eq_iff (type : SocketType) (path : String) (family : Family)
    (host p q : Nat) :
    formatSockpath type path (.ip family host p) = formatSockpath type path (.ip family host q) ↔
      p = q ∨ portSlots path.toList = 0 := by
  simp only [formatSockpath_expand]
  constructor
  · intro h
    by_cases h0 : portSlots path.toList = 0
    · exact .inr h0
    · exact .inl (expand_port_injective type family host p q _ (Nat.pos_of_ne_zero h0) h)
  · rintro (rfl | h0)
    · rfl
    · exact expand_port_eq type family host p q _ h0

end Ip2unix
