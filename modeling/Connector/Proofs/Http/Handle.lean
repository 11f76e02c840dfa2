import Connector.Http.Flow
import Connector.Proofs.Url.Segment

/-!
# Asking about a handle

A data plane is asked how a flow stands below its own address, at `transfer` and the handle that it
gave.  A handle is any text.  If it is a plain one, whatever marks are in it, the question goes to
one more segment of the path, from which the handle can be read back, and so to a place of its own.
A handle of dots, or with tabs or line ends in it, is not plain, and is asked about elsewhere.
Statements:

* `parse_web` — an address of the web has a host and a path of segments;
* `pollRequest_eq` — where a data plane is asked about a handle;
* `target_eq` — the segment in the first line of the request;
* `asks_about_handle` — which handles have a place of their own.
-/

namespace Connector

namespace Url

theorem isSome_host_of_authority {scheme : String} {cs : List Char} {a : Authority}
    (h : authority scheme cs = .ok a) : a.host.isSome = true := by
  unfold authority at h
  simp only [bind, Except.bind, pure, Except.pure, throw, throwThe, MonadExceptOf.throw] at h
  repeat' split at h
  all_goals cases h <;> rfl

/-- An address of the web has a host, and a path that takes segments. -/
theorem parse_web {text : String} {u : Url} (h : Url.parse text = .ok u)
    (web : u.scheme = "http" ∨ u.scheme = "https") :
    (∃ path, u.path = .segments path) ∧ u.host.isSome = true := by
  unfold Url.parse at h
  simp only [bind, Except.bind, pure, Except.pure, throw, throwThe, MonadExceptOf.throw] at h
  split at h
  case h_2 => exact nomatch h
  case h_1 scheme rest _ =>
    have hspecial : scheme = "http" ∨ scheme = "https" → isSpecial scheme = true := by
      rintro (rfl | rfl) <;> rfl
    split at h
    case isTrue hfile =>
      split at h
      · exact nomatch h
      · obtain rfl := Except.ok.inj h
        have hscheme : scheme = "file" := eq_of_beq hfile
        subst hscheme
        have hforeign : ¬("file" = "http" ∨ "file" = "https") := by decide
        exact absurd web hforeign
    case isFalse =>
      split at h
      case isTrue =>
        split at h
        · exact nomatch h
        · next a ha =>
          obtain rfl := Except.ok.inj h
          exact ⟨⟨_, rfl⟩, isSome_host_of_authority ha⟩
      case isFalse hforeign =>
        obtain rfl := Except.ok.inj h
        exact absurd (by rw [hspecial web]; rfl) hforeign

end Url

namespace DataPlane

open Url (Part landing trunk decodeText? IsPlain)

variable {d : DataPlane} {u : Url}

/-- **Where a data plane is asked.**  If its address is one of the web, the request for a handle
goes to that address, and in its path to where the handle lands behind `transfer`. -/
theorem pollRequest_eq (parsed : Url.parse d.url = .ok u)
    (web : u.scheme = "http" ∨ u.scheme = "https") {path : List String}
    (hpath : u.path = .segments path) (handle : String) :
    d.pollRequest handle =
      .ok ⟨.get, { u with
        path := .segments (landing .specialSegment (trunk path) "transfer" handle) }, none⟩ := by
  obtain ⟨-, hhost⟩ := Url.parse_web parsed web
  have hspecial : Url.isSpecial u.scheme = true := by
    rcases web with h | h <;> rw [h] <;> rfl
  have htransfer : Url.pushSegment .specialSegment (Url.popEmpty path) "transfer" =
      trunk path ++ ["transfer"] :=
    Url.pushSegment_trunk path (by decide) (by decide) (by decide) (by decide)
  have hlanding := Url.pushSegment_eq_landing Part.specialSegment_escapes
    Part.specialSegment_keeps_dot (trunk path) (show "transfer" ≠ "" by decide) handle
  have hpush : u.push? ["transfer", handle] = some { u with
      path := .segments (landing .specialSegment (trunk path) "transfer" handle) } := by
    unfold Url.push?
    rw [hpath]
    simp only [hspecial, if_true, List.foldl_cons, List.foldl_nil, htransfer, hlanding]
  have hreachable (place : List String) :
      Http.isReachable { u with path := .segments place } = true := by
    unfold Http.isReachable
    rw [hhost, Bool.and_true]
    rcases web with h | h <;> rw [h] <;> rfl
  unfold pollRequest endpoint
  rw [parsed]
  simp only [hpush]
  show requestTo .get _ none = _
  unfold requestTo Http.Request.to
  rw [if_pos (hreachable _)]
  rfl

/-- **The first line of a request.**  It names the address up to the last segment, without name and
password, then the segment, and then the query. -/
theorem target_eq (hhost : u.host.isSome = true) (method : Http.Method) (front : List String)
    (s : String) (body : Option Json) :
    Http.Request.target ⟨method, { u with path := .segments (front ++ [s]) }, body⟩ =
      { u.withoutUserInfo with
        path := .segments front, query := none, fragment := none : Url }.text ++ "/" ++ s ++
        ((u.query.map fun q => "?" ++ q).getD "") := by
  obtain ⟨host, hhost⟩ := Option.isSome_iff_exists.1 hhost
  unfold Http.Request.target Url.text Url.authorityText Url.withoutUserInfo Url.userInfoText
  simp only [hhost, Url.Path.text, List.map_append, String.join_append, String.append_assoc]
  cases u.query <;> simp [String.append_assoc]

/-- Of plain handles only the same one is asked about in the same place. -/
theorem eq_of_target_eq (parsed : Url.parse d.url = .ok u)
    (web : u.scheme = "http" ∨ u.scheme = "https") {path : List String}
    (hpath : u.path = .segments path) {handle handle' : String} (plain : IsPlain handle)
    (plain' : IsPlain handle') {r r' : Http.Request} (hr : d.pollRequest handle = .ok r)
    (hr' : d.pollRequest handle' = .ok r') (htarget : r.target = r'.target) :
    handle = handle' := by
  obtain ⟨-, hhost⟩ := Url.parse_web parsed web
  have hsplit (s : String) : trunk path ++ ["transfer", s] = (trunk path ++ ["transfer"]) ++ [s] :=
    List.append_cons _ _ _
  rw [pollRequest_eq parsed web hpath, Url.landing_of_isPlain plain, hsplit] at hr
  rw [pollRequest_eq parsed web hpath, Url.landing_of_isPlain plain', hsplit] at hr'
  obtain rfl := Except.ok.inj hr
  obtain rfl := Except.ok.inj hr'
  rw [target_eq hhost, target_eq hhost, String.append_left_inj, String.append_right_inj] at htarget
  have hencoded := String.ofList_injective htarget
  exact String.toList_inj.1 (Url.eq_of_encode_eq Part.specialSegment_escapes hencoded)

/-- **A place for every handle.**  If the address of a data plane is one of the web, it is asked
about a handle at that address with another path: that of the data plane without an empty segment
at its end, and behind it `transfer` and where the handle lands.  It lands on one segment from which
it can be read back exactly if it is plain; and different plain handles are asked about in different
places. -/
theorem asks_about_handle (parsed : Url.parse d.url = .ok u)
    (web : u.scheme = "http" ∨ u.scheme = "https") :
    ∃ path, u.path = .segments path ∧
      (∀ handle, d.pollRequest handle = .ok ⟨.get, { u with
        path := .segments (landing .specialSegment (trunk path) "transfer" handle) }, none⟩) ∧
      (∀ handle, IsPlain handle ↔ ∃ s, d.pollRequest handle = .ok ⟨.get, { u with
          path := .segments (trunk path ++ ["transfer", s]) }, none⟩ ∧
        Url.IsSegment s ∧ decodeText? s.toList = some handle) ∧
      ∀ handle handle' r r', IsPlain handle → IsPlain handle' →
        d.pollRequest handle = .ok r → d.pollRequest handle' = .ok r' →
        r.target = r'.target → handle = handle' := by
  obtain ⟨⟨path, hpath⟩, -⟩ := Url.parse_web parsed web
  have hpoll := pollRequest_eq parsed web hpath
  refine ⟨path, hpath, hpoll, fun handle => ?_, ?_⟩
  · constructor
    · intro h
      refine ⟨_, ?_, Url.isSegment_encode h, ?_⟩
      · rw [hpoll, Url.landing_of_isPlain h]
      · rw [String.toList_ofList, Url.decodeText?_encode Part.specialSegment_escapes,
          String.ofList_toList]
    · rintro ⟨s, hs, -, hread⟩
      rw [hpoll] at hs
      simp only [Except.ok.injEq, Http.Request.mk.injEq, Url.mk.injEq, Url.Path.segments.injEq,
        true_and, and_true] at hs
      exact (Url.isPlain_iff_exists_segment Part.specialSegment_escapes _ _ _).2 ⟨s, hs, hread⟩
  · intro handle handle' r r' plain plain' hr hr' htarget
    exact eq_of_target_eq parsed web hpath plain plain' hr hr' htarget

/-- A data plane in a place below the root. -/
def inControl : DataPlane := { (default : DataPlane) with url := "http://dp/control" }

theorem parse_inControl : Url.parse inControl.url =
    .ok ⟨"http", "", none, some (.name "dp"), none, .segments ["control"], none, none⟩ := by
  have hparse : (Url.parse inControl.url).toOption =
      some ⟨"http", "", none, some (.name "dp"), none, .segments ["control"], none, none⟩ := by
    decide +kernel
  cases h : Url.parse inControl.url with
  | error e =>
      rw [h] at hparse
      exact nomatch hparse
  | ok u =>
      rw [h] at hparse
      rw [Option.some.inj hparse]

/-- A handle with marks of all sorts is one segment. -/
theorem asks_about_handle_of_marks :
    Url.parse inControl.url =
        .ok ⟨"http", "", none, some (.name "dp"), none, .segments ["control"], none, none⟩ ∧
      IsPlain "a/../b?x=1#y" ∧
      (inControl.pollRequest "a/../b?x=1#y").map Http.Request.target =
        .ok "http://dp/control/transfer/a%2F..%2Fb%3Fx=1%23y" ∧
      ∀ r, inControl.pollRequest "c" = .ok r →
        r.target ≠ "http://dp/control/transfer/a%2F..%2Fb%3Fx=1%23y" := by
  obtain ⟨path, hpath, hpoll, -, hdistinct⟩ :=
    asks_about_handle parse_inControl (Or.inl rfl)
  have hmarks : IsPlain "a/../b?x=1#y" := by decide
  obtain rfl : ["control"] = path := by simpa using hpath
  have htarget : (inControl.pollRequest "a/../b?x=1#y").map Http.Request.target =
      .ok "http://dp/control/transfer/a%2F..%2Fb%3Fx=1%23y" := by
    rw [hpoll]
    exact congrArg Except.ok (by decide +kernel)
  refine ⟨parse_inControl, hmarks, htarget, fun r hr heq => ?_⟩
  rw [hpoll] at htarget
  have hsame := hdistinct _ _ _ _ hmarks (by decide) (hpoll _) hr
    ((Except.ok.inj htarget).trans heq.symm)
  exact absurd hsame (by decide)

/-- **Handles that lead elsewhere.**  Two dots are not a segment but are asked about where transfers
are started; with a tab between them they lead above; and a handle with a tab is asked about where
the one without it is. -/
theorem asks_elsewhere :
    Url.parse inControl.url =
        .ok ⟨"http", "", none, some (.name "dp"), none, .segments ["control"], none, none⟩ ∧
      (∀ r s, inControl.pollRequest ".." = .ok r →
        r.url.path ≠ .segments ["control", "transfer", s]) ∧
      (inControl.pollRequest "..").map Http.Request.target = .ok "http://dp/control/transfer" ∧
      (inControl.pollRequest ".\t.").map Http.Request.target = .ok "http://dp/control/" ∧
      inControl.pollRequest "a\tb" = inControl.pollRequest "ab" := by
  have hpoll := pollRequest_eq parse_inControl (Or.inl rfl) rfl
  refine ⟨parse_inControl, fun r s hr => ?_, ?_, ?_, ?_⟩
  · rw [hpoll] at hr
    obtain rfl := Except.ok.inj hr
    have hlanding : landing .specialSegment (trunk ["control"]) "transfer" ".." =
        ["control", "transfer"] := by decide
    show Url.Path.segments (landing .specialSegment (trunk ["control"]) "transfer" "..") ≠ _
    rw [hlanding]
    nofun
  · rw [hpoll]
    exact congrArg Except.ok (by decide +kernel)
  · rw [hpoll]
    exact congrArg Except.ok (by decide +kernel)
  · have hlanding : landing .specialSegment (trunk ["control"]) "transfer" "a\tb" =
        landing .specialSegment (trunk ["control"]) "transfer" "ab" := by decide
    rw [hpoll, hpoll, hlanding]

end DataPlane
end Connector
