import Ip2unix.SockAddr

/-!
# Ip2unix — placeholder expansion in socket paths

`Socket::format_sockpath` walks the template with an index and, on a `%` that is not the
last character, switches on the next one: `%%`, `%a`, `%p` and `%t` append their text and
skip the second index; any other character falls out of the switch and the `%` is copied.
`formatLoop` is that loop, run on `fuel` rounds; the template's length is enough since
every round advances the index.

The loop agrees with `expand`, the left-to-right token-wise expansion, on every template
(`formatSockpath_eq_expand`): `formatLoop_eq` carries the index through the loop, with
`expand_percent` reading `expand` the way the loop's `switch` reads the template. Doubling
every `%` of a string is then undone by formatting it (`expand_doublePercent`), and a
template without `%` is the path itself (`formatSockpath_without_percent`).
-/

namespace Ip2unix

/-- The text `%t` expands to. -/
def SocketType.name : SocketType → String
  | .tcp => "tcp"
  | .udp => "udp"
  | .invalid => "unknown"

/-- The `switch` of `format_sockpath` on the character after a `%`: the text of the
placeholder, or `none` when the character is not one. -/
def placeholder (type : SocketType) (addr : SockAddr) : Char → Option String
  | '%' => some "%"
  | 'a' => some (addr.getHost.getD "unknown")
  | 'p' => some (addr.getPortStr.getD "unknown")
  | 't' => some type.name
  | _ => none

/-- The loop of `format_sockpath` from index `i`, with `out` written so far. -/
def formatLoop (type : SocketType) (addr : SockAddr) (path : List Char) :
    Nat → Nat → String → String
  | 0, _, out => out
  | fuel + 1, i, out =>
    match path[i]? with
    | none => out
    | some c =>
      match c == '%', path[i + 1]? with
      | true, some d =>
        match placeholder type addr d with
        | some text => formatLoop type addr path fuel (i + 2) (out ++ text)
        | none => formatLoop type addr path fuel (i + 1) (out.push c)
      | _, _ => formatLoop type addr path fuel (i + 1) (out.push c)

/-- `Socket::format_sockpath`. -/
def formatSockpath (type : SocketType) (path : String) (addr : SockAddr) : String :=
  formatLoop type addr path.toList path.length 0 ""

/-- The structural expansion of a template, token by token from the left. -/
def expand (type : SocketType) (addr : SockAddr) : List Char → String
  | [] => ""
  | '%' :: '%' :: r => "%" ++ expand type addr r
  | '%' :: 'a' :: r => addr.getHost.getD "unknown" ++ expand type addr r
  | '%' :: 'p' :: r => addr.getPortStr.getD "unknown" ++ expand type addr r
  | '%' :: 't' :: r => type.name ++ expand type addr r
  | c :: r => String.singleton c ++ expand type addr r

/-- Every `%` of a string written twice. -/
def doublePercent (s : String) : String :=
  ⟨s.toList.flatMap fun c => if c = '%' then ['%', '%'] else [c]⟩

section

variable (type : SocketType) (addr : SockAddr)

theorem push_eq_append (out : String) (c : Char) : out.push c = out ++ String.singleton c :=
  rfl

@[simp] theorem expand_nil : expand type addr [] = "" := rfl

theorem singleton_percent : String.singleton '%' = "%" := rfl

/-- A character other than `%` is copied. -/
theorem expand_cons_of_ne {c : Char} (hc : c ≠ '%') (r : List Char) :
    expand type addr (c :: r) = String.singleton c ++ expand type addr r :=
  expand.eq_6 _ _ _ _ (fun _ h _ => hc h) (fun _ h _ => hc h) (fun _ h _ => hc h)
    (fun _ h _ => hc h)

/-- `expand` on a `%` reads the next character as the loop's `switch` does. -/
theorem expand_percent (d : Char) (r : List Char) :
    expand type addr ('%' :: d :: r) =
      match placeholder type addr d with
      | some text => text ++ expand type addr r
      | none => "%" ++ expand type addr (d :: r) := by
  by_cases h1 : d = '%'
  · subst h1; rfl
  by_cases h2 : d = 'a'
  · subst h2; rfl
  by_cases h3 : d = 'p'
  · subst h3; rfl
  by_cases h4 : d = 't'
  · subst h4; rfl
  have hp : placeholder type addr d = none := by
    unfold placeholder; split <;> simp_all
  rw [hp, expand.eq_6] <;> simp_all [singleton_percent]

/-- A lone `%` at the end is copied. -/
theorem expand_percent_nil : expand type addr ['%'] = "%" := rfl

/-- **The loop computes the expansion of what is left.** From index `i`, with enough
fuel, the loop appends the expansion of the template's suffix from `i`. -/
theorem formatLoop_eq (path : List Char) :
    ∀ fuel i out, path.length ≤ i + fuel →
      formatLoop type addr path fuel i out = out ++ expand type addr (path.drop i) := by
  intro fuel
  induction fuel with
  | zero =>
    intro i out h
    simp [formatLoop, List.drop_eq_nil_of_le (by omega : path.length ≤ i)]
  | succ fuel ih =>
    intro i out h
    have hget : ∀ j, path[i + j]? = (path.drop i)[j]? := fun j => (List.getElem?_drop _ _ _).symm
    have hdrop : ∀ j, path.drop (i + j) = (path.drop i).drop j := fun j => by simp
    cases hl : path.drop i with
    | nil =>
      have : path[i]? = none := by simpa [hl] using hget 0
      simp [formatLoop, this]
    | cons c rest =>
      have hc : path[i]? = some c := by simpa [hl] using hget 0
      have hlen : path.length = i + (rest.length + 1) := by
        have := congrArg List.length hl
        simp only [List.length_drop, List.length_cons] at this
        omega
      have hnext : path[i + 1]? = rest[0]? := by simpa [hl] using hget 1
      have hrest : path.drop (i + 1) = rest := by simpa [hl] using hdrop 1
      simp only [formatLoop, hc, hnext]
      by_cases hpc : c = '%'
      · subst hpc
        cases rest with
        | nil =>
          simp [ih (i + 1) _ (by omega), hrest, push_eq_append, expand_percent_nil,
            singleton_percent]
        | cons d r =>
          have hr : path.drop (i + 2) = r := by simpa [hl] using hdrop 2
          simp only [beq_self_eq_true, List.getElem?_cons_zero, expand_percent]
          split
          · rw [ih (i + 2) _ (by simp at hlen; omega), hr, String.append_assoc]
          · rw [ih (i + 1) _ (by omega), hrest, push_eq_append, String.append_assoc]
            rfl
      · have : (c == '%') = false := by simpa using hpc
        simp only [this, ih (i + 1) _ (by omega), hrest, push_eq_append, String.append_assoc,
          expand_cons_of_ne type addr hpc]

/-- Expanding a template with every `%` doubled gives the characters back. -/
theorem expand_doublePercent (cs : List Char) :
    expand type addr (cs.flatMap fun c => if c = '%' then ['%', '%'] else [c]) = ⟨cs⟩ := by
  induction cs with
  | nil => rfl
  | cons c cs ih =>
    by_cases hc : c = '%'
    · subst hc
      simp only [List.flatMap_cons, if_true, List.cons_append, List.nil_append]
      rw [show expand type addr ('%' :: '%' :: _) = "%" ++ expand type addr _ from rfl, ih]
      rfl
    · simp only [List.flatMap_cons, if_neg hc, List.singleton_append,
        expand_cons_of_ne type addr hc, ih]
      rfl

/-- The loop run on the whole template is `expand` of it. -/
theorem formatSockpath_expand (path : String) :
    formatSockpath type path addr = expand type addr path.toList := by
  simpa [formatSockpath] using formatLoop_eq type addr path.toList path.length 0 ""
    (Nat.le_of_eq (by cases path; simp [String.length]))

end

/-- **`format_sockpath` is the token-wise expansion.** For every template, address and
socket type the loop gives `expand` of the template; so a string with every `%` doubled
comes back unchanged, whatever the address. -/
theorem formatSockpath_eq_expand :
    (∀ (type : SocketType) (path : String) (addr : SockAddr),
      formatSockpath type path addr = expand type addr path.toList) ∧
    (∀ (type : SocketType) (s : String) (addr : SockAddr),
      formatSockpath type (doublePercent s) addr = s) :=
  ⟨fun type path addr => formatSockpath_expand type addr path, fun type s addr =>
    (formatSockpath_expand type addr _).trans (expand_doublePercent type addr s.toList)⟩

/-- **A template without `%` is the path.** -/
theorem formatSockpath_without_percent (type : SocketType) (path : String) (addr : SockAddr)
    (h : '%' ∉ path.toList) : formatSockpath type path addr = path := by
  rw [formatSockpath_expand]
  obtain ⟨cs⟩ := path
  change '%' ∉ cs at h
  change expand type addr cs = ⟨cs⟩
  induction cs with
  | nil => rfl
  | cons c cs ih =>
    rw [List.mem_cons, not_or] at h
    rw [expand_cons_of_ne type addr fun hc => h.1 hc.symm, ih h.2]
    rfl

/-- `/tmp/u.sock` names itself, whatever the address. -/
theorem plain_template_is_path :
    '%' ∉ "/tmp/u.sock".toList ∧
      formatSockpath .udp "/tmp/u.sock" (.ip .inet 0x7f000001 5000) = "/tmp/u.sock" :=
  ⟨by decide, formatSockpath_without_percent _ _ _ (by decide)⟩

example : formatSockpath .tcp "/run/%a:%p-%t.%x%" (.ip .inet 0x7f000001 8080) =
    "/run/127.0.0.1:8080-tcp.%x%" := by
  decide

end Ip2unix
