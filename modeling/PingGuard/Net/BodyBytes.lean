import PingGuard.Net.Pinning
import PingGuard.Net.Returns

/-!
# The bytes of a body

The loop over the chunks of a body adds the size of a chunk that it has already been given and stops
if the limit is exceeded. A body within the limit is taken in whole. Of a larger body it takes in
the chunks up to the one that exceeds the limit, and that one too (`readBody_le_iff`), whose size is
the server's to choose.

A probe reads the body of its last response at most, since the responses before are redirects.
-/

set_option autoImplicit false
set_option relaxedAutoImplicit false

namespace PingGuard.Net

open Library.PyText Ssrf Status

/-! ### One body -/

/-- Reading a body stays within the limit exactly when the body does. -/
theorem readBody_le_iff {maxBytes bytesRead : ℕ} (hread : bytesRead ≤ maxBytes)
    (ending : Option SendFailure) (chunks : List ℕ) :
    (readBody maxBytes ending bytesRead chunks).1 ≤ maxBytes ↔
      bytesRead + chunks.sum ≤ maxBytes := by
  induction chunks generalizing bytesRead with
  | nil => exact iff_of_true hread hread
  | cons chunk rest ih =>
    rw [readBody, List.sum_cons]
    split_ifs with hexceeds
    · exact iff_of_false (Nat.not_le.mpr hexceeds) (by omega)
    · rw [ih (Nat.not_lt.mp hexceeds), Nat.add_assoc]

/-! ### The bodies of a run -/

/-- The bytes of the body that `perform_http_probe` takes in after a response. The body of a
redirect is not read. -/
def bodyBytes (config : ProbeConfig) (response : Response) : ℕ :=
  if response.isRedirect then 0
  else (readBody config.maxResponseBytes response.bodyFailure 0 response.chunks).1

/-- The bytes of a body that a hop takes in. -/
def bytesTaken (env : ProbeEnv) (config : ProbeConfig) (hop : Hop) : ℕ :=
  match hop.request, env.server hop.redirectCount with
  | some _, .response response => bodyBytes config response
  | _, _ => 0

/-- A hop reads the body of a response: the server sends it for the request, and it is no
redirect. -/
def ReadsBodyOf (env : ProbeEnv) (hop : Hop) (response : Response) : Prop :=
  hop.request.isSome = true ∧ env.server hop.redirectCount = .response response ∧
    response.isRedirect = false

/-- A hop takes in at most the limit exactly when the body that it reads, if any, is within it. -/
theorem bytesTaken_le_iff (env : ProbeEnv) (config : ProbeConfig) (hop : Hop) :
    bytesTaken env config hop ≤ config.maxResponseBytes ↔
      ∀ response, ReadsBodyOf env hop response →
        response.chunks.sum ≤ config.maxResponseBytes := by
  unfold bytesTaken ReadsBodyOf bodyBytes
  cases hop.request with
  | none => exact iff_of_true (Nat.zero_le _) fun _ hreads ↦ Bool.noConfusion hreads.1
  | some request =>
    cases env.server hop.redirectCount with
    | failure failure => exact iff_of_true (Nat.zero_le _) fun _ hreads ↦ nomatch hreads.2.1
    | response response =>
      dsimp only
      split_ifs with hredirect
      · refine iff_of_true (Nat.zero_le _) fun other hreads ↦ ?_
        obtain rfl := ServerReply.response.inj hreads.2.1
        exact Bool.noConfusion (hredirect.symm.trans hreads.2.2)
      · rw [readBody_le_iff (Nat.zero_le _), Nat.zero_add]
        constructor
        · rintro hle other ⟨-, hother, -⟩
          exact ServerReply.response.inj hother ▸ hle
        · exact fun hall ↦ hall response ⟨rfl, rfl, Bool.not_eq_true _ ▸ hredirect⟩

/-- A hop that is redirected takes in nothing. -/
theorem bytesTaken_of_redirected {env : ProbeEnv} {config : ProbeConfig} {url currentUrl : PyStr}
    {redirectCount : ℕ} {statusCode : ℤ} {location : Option PyStr}
    (hredirected : (probeHop env config url redirectCount currentUrl).2 =
      .ok (.redirected statusCode location)) :
    bytesTaken env config (probeHop env config url redirectCount currentUrl).1 = 0 := by
  obtain ⟨response, hanswered, hredirect, -⟩ :=
    (probeHop_redirected_iff env config url redirectCount currentUrl _ _).mp hredirected
  obtain ⟨_, _, _, -, -, -, hserver⟩ := hanswered
  have hbody : bodyBytes config response = 0 := if_pos hredirect
  unfold bytesTaken
  rw [(probeHop_hop env config url redirectCount currentUrl).1, hserver]
  cases (probeHop env config url redirectCount currentUrl).1.request with
  | none => rfl
  | some request => exact hbody

/-- The loop takes in the bytes of one hop at most. -/
theorem sum_bytesTaken_probeLoop_le_iff (env : ProbeEnv) (config : ProbeConfig) (url : PyStr)
    (limit remaining redirectCount : ℕ) (currentUrl : PyStr) :
    ((probeLoop env config url remaining redirectCount currentUrl).1.map
        (bytesTaken env config)).sum ≤ limit ↔
      ∀ hop ∈ (probeLoop env config url remaining redirectCount currentUrl).1,
        bytesTaken env config hop ≤ limit := by
  have hone : ∀ hop, (([hop] : List Hop).map (bytesTaken env config)).sum ≤ limit ↔
      ∀ other ∈ [hop], bytesTaken env config other ≤ limit := fun hop ↦ by simp
  induction remaining generalizing redirectCount currentUrl with
  | zero =>
    unfold probeLoop
    split <;> exact hone _
  | succ remaining ih =>
    unfold probeLoop
    split
    · exact hone _
    · exact hone _
    · exact hone _
    · rename_i hop statusCode location heq
      dsimp only
      split
      · exact hone _
      · exact hone _
      · have hzero := bytesTaken_of_redirected (congrArg Prod.snd heq)
        rw [heq] at hzero
        rw [List.map_cons, List.sum_cons, hzero, Nat.zero_add, List.forall_mem_cons, hzero]
        exact (ih _ _).trans (and_iff_right (Nat.zero_le limit)).symm

/-- A probe takes in at most the limit exactly when every body that it reads is within it. -/
theorem performHttpProbe_bytesTaken_le_iff (env : ProbeEnv) (config : ProbeConfig)
    (url : PyStr) :
    ((performHttpProbe env config url).hops.map (bytesTaken env config)).sum ≤
        config.maxResponseBytes ↔
      ∀ hop ∈ (performHttpProbe env config url).hops, ∀ response, ReadsBodyOf env hop response →
        response.chunks.sum ≤ config.maxResponseBytes := by
  have hsum := sum_bytesTaken_probeLoop_le_iff env config url config.maxResponseBytes
    config.maxRedirects 0 url
  exact hsum.trans (forall₂_congr fun hop _ ↦ bytesTaken_le_iff env config hop)

/-- With a limit of one byte, a body that arrives in one chunk of 500 bytes is taken in whole. -/
theorem performHttpProbe_takes_more :
    oneRedirectConfig.maxResponseBytes = 1 ∧
      1 < ((performHttpProbe (steadyEnv (.response ⟨200, none, [500], none, none⟩))
        oneRedirectConfig "http://example.com/".toList).hops.map (bytesTaken
          (steadyEnv (.response ⟨200, none, [500], none, none⟩)) oneRedirectConfig)).sum := by
  decide

end PingGuard.Net
