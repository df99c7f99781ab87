/-
# Reporters and a mailbox

Reporters write to one mailbox, which is read in order. Every reporter has a key of
its own, no key is used twice, and after a final message a reporter is silent. Then
the final message is the last that is read under its key: a key is over from the
moment its final message is taken, and it stays over.

What a message is about and whether it is final are parameters. Messages that are
about no key come from elsewhere.
-/

import Mathlib.Data.List.Perm.Subperm

namespace Modvpn.Protocol

variable {κ μ : Type}

/-- Reporters that write to one mailbox. -/
structure Reporters (κ μ : Type) where
  /-- Keys that were ever given to a reporter. -/
  opened : List κ
  /-- Keys whose reporters are not silent. -/
  live : List κ
  mailbox : List μ

namespace Reporters

section

variable (about : μ → Option κ) (final : μ → Bool)

/-- What may happen to reporters and mailbox. -/
inductive Moves : Reporters κ μ → Reporters κ μ → Prop
  | opens {opened live more : List κ} {mailbox : List μ} {key : κ} (hfresh : key ∉ opened)
      (hlive : more.Perm (key :: live)) :
      Moves ⟨opened, live, mailbox⟩ ⟨key :: opened, more, mailbox⟩
  /-- Some reporters fall silent, or none. -/
  | close {opened live fewer : List κ} {mailbox : List μ} (hlive : fewer.Subperm live) :
      Moves ⟨opened, live, mailbox⟩ ⟨opened, fewer, mailbox⟩
  | report {opened live : List κ} {mailbox : List μ} {message : μ} {key : κ}
      (habout : about message = some key) (hfinal : final message = false) (hlive : key ∈ live) :
      Moves ⟨opened, live, mailbox⟩ ⟨opened, live, mailbox ++ [message]⟩
  | finish {opened live fewer : List κ} {mailbox : List μ} {message : μ} {key : κ}
      (habout : about message = some key) (hlive : (key :: fewer).Perm live) :
      Moves ⟨opened, live, mailbox⟩ ⟨opened, fewer, mailbox ++ [message]⟩
  /-- A message from elsewhere. -/
  | pass {opened live : List κ} {mailbox : List μ} {message : μ} (habout : about message = none) :
      Moves ⟨opened, live, mailbox⟩ ⟨opened, live, mailbox ++ [message]⟩
  | take {opened live : List κ} {mailbox : List μ} {message : μ} :
      Moves ⟨opened, live, message :: mailbox⟩ ⟨opened, live, mailbox⟩
  /-- The mailbox and all reporters are lost. -/
  | reset {opened live : List κ} {mailbox : List μ} :
      Moves ⟨opened, live, mailbox⟩ ⟨opened, [], []⟩

/-- The message is the last one under this key. -/
def Ends (message : μ) (key : κ) : Prop := final message = true ∧ about message = some key

/-- Nothing follows a final message. -/
structure Orderly (reporters : Reporters κ μ) : Prop where
  live : reporters.live ⊆ reporters.opened
  nodup : reporters.live.Nodup
  known : ∀ message ∈ reporters.mailbox, ∀ key, about message = some key → key ∈ reporters.opened
  last : reporters.mailbox.Pairwise fun first second =>
    ∀ key, Ends about final first key → about second ≠ some key
  silent : ∀ message ∈ reporters.mailbox, ∀ key, Ends about final message key →
    key ∉ reporters.live

/-- The key was used, its reporter is silent, and no message of it is left. -/
structure Over (reporters : Reporters κ μ) (key : κ) : Prop where
  opened : key ∈ reporters.opened
  silent : key ∉ reporters.live
  none : ∀ message ∈ reporters.mailbox, about message ≠ some key

end

variable {about : μ → Option κ} {final : μ → Bool} {source target : Reporters κ μ}
  {opened live : List κ} {mailbox : List μ} {message : μ} {key : κ}

theorem orderly_nil : Orderly about final ⟨opened, [], []⟩ where
  live := List.nil_subset _
  nodup := List.nodup_nil
  known := nofun
  last := List.Pairwise.nil
  silent := nofun

/-- A message that may be written keeps the order. -/
theorem Orderly.write {fewer : List κ} (h : Orderly about final ⟨opened, live, mailbox⟩)
    (hfewer : fewer.Subperm live) (hlive : ∀ key, about message = some key → key ∈ live)
    (hsilent : ∀ key, Ends about final message key → key ∉ fewer) :
    Orderly about final ⟨opened, fewer, mailbox ++ [message]⟩ where
  live := fun _ hkey => h.live (hfewer.subset hkey)
  nodup := by
    obtain ⟨same, hperm, hsublist⟩ := hfewer
    exact hperm.nodup_iff.mp (h.nodup.sublist hsublist)
  known := by
    intro written hwritten key habout
    rcases List.mem_append.mp hwritten with hmem | hlast
    · exact h.known written hmem key habout
    · rw [List.mem_singleton.mp hlast] at habout
      exact h.live (hlive key habout)
  last := by
    rw [List.pairwise_append]
    refine ⟨h.last, List.pairwise_singleton .., fun first hfirst second hsecond key hends => ?_⟩
    rw [List.mem_singleton.mp hsecond]
    exact fun habout => h.silent first hfirst key hends (hlive key habout)
  silent := by
    intro written hwritten key hends hkey
    rcases List.mem_append.mp hwritten with hmem | hlast
    · exact h.silent written hmem key hends (hfewer.subset hkey)
    · rw [List.mem_singleton.mp hlast] at hends
      exact hsilent key hends hkey

theorem Orderly.move (h : Orderly about final source) (hmoves : Moves about final source target) :
    Orderly about final target := by
  cases hmoves with
  | opens hfresh hlive =>
      refine ⟨fun key hkey => ?_, ?_, fun written hwritten key habout => ?_, h.last,
        fun written hwritten key hends hkey => ?_⟩
      · rcases List.mem_cons.mp (hlive.subset hkey) with rfl | hkey
        · exact List.mem_cons_self ..
        · exact List.mem_cons_of_mem _ (h.live hkey)
      · rw [hlive.nodup_iff, List.nodup_cons]
        exact ⟨fun hkey => hfresh (h.live hkey), h.nodup⟩
      · exact List.mem_cons_of_mem _ (h.known written hwritten key habout)
      · rcases List.mem_cons.mp (hlive.subset hkey) with rfl | hkey
        · exact hfresh (h.known written hwritten _ hends.2)
        · exact h.silent written hwritten key hends hkey
  | close hlive =>
      refine ⟨fun key hkey => h.live (hlive.subset hkey), ?_, h.known, h.last,
        fun written hwritten key hends hkey => h.silent written hwritten key hends (hlive.subset hkey)⟩
      obtain ⟨same, hperm, hsublist⟩ := hlive
      exact hperm.nodup_iff.mp (h.nodup.sublist hsublist)
  | report habout hfinal hlive =>
      apply h.write (List.Subperm.refl _)
      · intro key hkey
        rw [habout] at hkey
        exact Option.some.inj hkey ▸ hlive
      · rintro key ⟨hends, -⟩
        rw [hfinal] at hends
        cases hends
  | finish habout hlive =>
      have hnodup := (hlive.nodup_iff.mpr h.nodup)
      apply h.write ((List.sublist_cons_self ..).subperm.trans hlive.subperm)
      · intro key hkey
        rw [habout] at hkey
        exact Option.some.inj hkey ▸ hlive.subset (List.mem_cons_self ..)
      · rintro key ⟨-, hkey⟩
        rw [habout] at hkey
        exact Option.some.inj hkey ▸ (List.nodup_cons.mp hnodup).1
  | pass habout =>
      apply h.write (List.Subperm.refl _)
      · intro key hkey
        rw [habout] at hkey
        cases hkey
      · rintro key ⟨-, hkey⟩
        rw [habout] at hkey
        cases hkey
  | take =>
      exact ⟨h.live, h.nodup, fun written hwritten => h.known written (List.mem_cons_of_mem _ hwritten),
        h.last.of_cons, fun written hwritten => h.silent written (List.mem_cons_of_mem _ hwritten)⟩
  | reset => exact orderly_nil

/-- A message that may be written is not about a key that is over. -/
theorem Over.write {fewer : List κ} (h : Over about ⟨opened, live, mailbox⟩ key)
    (hfewer : fewer ⊆ live) (habout : ∀ other, about message = some other → other ∈ live) :
    Over about ⟨opened, fewer, mailbox ++ [message]⟩ key := by
  refine ⟨h.opened, fun hkey => h.silent (hfewer hkey), fun written hwritten => ?_⟩
  rcases List.mem_append.mp hwritten with hmem | hlast
  · exact h.none written hmem
  · rw [List.mem_singleton.mp hlast]
    exact fun hkey => h.silent (habout key hkey)

/-- A key that is over stays over. -/
theorem Over.move (h : Over about source key) (hmoves : Moves about final source target) :
    Over about target key := by
  cases hmoves with
  | opens hfresh hlive =>
      refine ⟨List.mem_cons_of_mem _ h.opened, fun hkey => ?_, h.none⟩
      rcases List.mem_cons.mp (hlive.subset hkey) with rfl | hkey
      · exact hfresh h.opened
      · exact h.silent hkey
  | close hlive => exact ⟨h.opened, fun hkey => h.silent (hlive.subset hkey), h.none⟩
  | report habout hfinal hlive =>
      apply h.write (List.Subset.refl _)
      intro other hother
      rw [habout] at hother
      exact Option.some.inj hother ▸ hlive
  | finish habout hlive =>
      apply h.write fun other hother => hlive.subset (List.mem_cons_of_mem _ hother)
      intro other hother
      rw [habout] at hother
      exact Option.some.inj hother ▸ hlive.subset (List.mem_cons_self ..)
  | pass habout =>
      apply h.write (List.Subset.refl _)
      intro other hother
      rw [habout] at hother
      cases hother
  | take =>
      exact ⟨h.opened, h.silent, fun written hwritten => h.none written (List.mem_cons_of_mem _ hwritten)⟩
  | reset => exact ⟨h.opened, List.not_mem_nil, nofun⟩

/-- A key is over when its final message is taken. -/
theorem over_of_take (h : Orderly about final ⟨opened, live, message :: mailbox⟩)
    (hends : Ends about final message key) : Over about ⟨opened, live, mailbox⟩ key where
  opened := h.known message (List.mem_cons_self ..) key hends.2
  silent := h.silent message (List.mem_cons_self ..) key hends
  none := fun _ hmem => List.rel_of_pairwise_cons h.last hmem key hends

end Reporters

end Modvpn.Protocol
