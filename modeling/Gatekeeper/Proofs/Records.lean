import Gatekeeper.Code.Basic
import Gatekeeper.Identity
import Gatekeeper.Proofs.Json.Record
import Gatekeeper.Proofs.Json.Value
import Gatekeeper.Session.Basic

/-!
# `Gatekeeper.Proofs.Records`: the records of the tables read back

The tables keep their records as texts. Here is that each record comes
back from its text as it was: sessions (`Session.decode_encode`), recover
codes (`RecoverCode.decode_encode`), users (`User.decode_encode`), dapp
bindings (`DappBinding.decode_encode`) and workspaces
(`Workspace.decode_encode`). What is proved about a table can therefore
speak of the records in it.

A recover code carries free JSON, which its text does not always
determine. Its round trip asks that the JSON is as the reader would make
it, and the codes that the server issues are of this kind.
-/

set_option autoImplicit false

namespace Gatekeeper

open Json (Form)
open Json.Fields (Faithful)

/-! ### Parts -/

/-- The name of an encoder leads back to it. -/
theorem Encoder.form_faithful (e : Encoder) : Encoder.form.Faithful 0 e :=
  Form.variant_faithful (by cases e <;> rfl)

theorem CodeKind.form_faithful (k : CodeKind) : CodeKind.form.Faithful 0 k :=
  Form.variant_faithful (by cases k <;> rfl)

theorem Network.form_faithful (n : Network) : Network.form.Faithful 1 n :=
  Form.record_faithful rfl <|
    .required (Form.text_faithful _) (by decide) <|
    .required (Form.word64_faithful _) (by decide) trivial

theorem UserSnapshot.form_faithful (u : UserSnapshot) : UserSnapshot.form.Faithful 1 u :=
  Form.record_faithful rfl <|
    .required (Form.text_faithful _) (by decide) <|
    .required (Form.text_faithful _) (by decide) <|
    .required (Form.text_faithful _) (by decide) <|
    .required (Form.text_faithful _) (by decide) <|
    .required (Encoder.form_faithful _) (by decide) <|
    .required (Form.boolean_faithful _) (by decide) <|
    .required (Form.boolean_faithful _) (by decide) trivial

theorem WorkspaceRef.form_faithful (w : WorkspaceRef) : WorkspaceRef.form.Faithful 1 w :=
  Form.record_faithful rfl <|
    .required (Form.text_faithful _) (by decide) <|
    .required (Form.text_faithful _) (by decide) <|
    .required (Form.boolean_faithful _) (by decide) trivial

/-! ### Sessions -/

/-- The form of sessions reads every session back. -/
theorem Session.form_faithful (s : Session) : Session.form.Faithful 2 s :=
  Form.record_faithful rfl <|
    .required (Form.text_faithful _) (by decide) <|
    .required (Form.text_faithful _) (by decide) <|
    .nested (UserSnapshot.form_faithful _) (by omega) (by decide) <|
    .nested (WorkspaceRef.form_faithful _) (by omega) (by decide) <|
    .nested (Network.form_faithful _) (by omega) (by decide) <|
    .required (Form.timestamp_faithful _) (by decide) <|
    .required (Form.timestamp_faithful _) (by decide) trivial

/-- Every session comes back from its row. -/
theorem Session.decode_encode (s : Session) :
    Session.form.decode (Session.form.encode s) = .ok s :=
  Form.decode_encode (Session.form_faithful s) (by decide)

/-- Different sessions have different texts. -/
theorem Session.encode_inj {s t : Session} (h : Session.form.encode s = Session.form.encode t) :
    s = t := by
  have hdecode := congrArg Session.form.decode h
  rw [Session.decode_encode, Session.decode_encode] at hdecode
  exact Except.ok.inj hdecode

/-! ### Recover codes -/

/-- The form of recover codes reads a code back, if its metadata are as
the reader makes them. -/
theorem RecoverCode.form_faithful {c : RecoverCode} {depth : Nat}
    (h : c.metadata.Plain (depth + 1)) : RecoverCode.form.Faithful (depth + 2) c :=
  Form.record_faithful rfl <|
    .required (Form.text_faithful _) (by decide) <|
    .required (Form.text_faithful _) (by decide) <|
    .required (Form.text_faithful _) (by decide) <|
    .required (Form.text_faithful _) (by decide) <|
    .required (CodeKind.form_faithful _) (by decide) <|
    .required (Form.timestamp_faithful _) (by decide) <|
    .required (Form.boolean_faithful _) (by decide) <|
    .required (Form.word32_faithful _) (by decide) <|
    .nested (Network.form_faithful _) (by omega) (by decide) <|
    .nested (Form.free_faithful h) (by omega) (by decide) <|
    .required (Form.timestamp_faithful _) (by decide) trivial

/-- Every recover code comes back from its row, if its metadata are as the
reader makes them and no deeper than a row may be. -/
theorem RecoverCode.decode_encode {c : RecoverCode} {depth : Nat}
    (h : c.metadata.Plain (depth + 1)) (hdepth : depth + 2 ≤ Form.maxDepth) :
    RecoverCode.form.decode (RecoverCode.form.encode c) = .ok c :=
  Form.decode_encode (RecoverCode.form_faithful h) hdepth

/-- A use that can be counted changes the count of uses and whether the code
is used up, and nothing else. -/
theorem RecoverCode.recordUse?_eq_some_iff {code used : RecoverCode} {maxUses : UInt32} :
    code.recordUse? maxUses = some used ↔ code.usesCount.toNat + 1 < UInt32.size ∧
      used = { code with
        usesCount := code.usesCount + 1
        used := code.used || maxUses ≤ code.usesCount + 1 } := by
  unfold RecoverCode.recordUse?
  split
  next hcount => simp [hcount, eq_comm]
  next hcount => simp [hcount]

/-! ### Users and dapps -/

theorem User.form_faithful (u : User) : User.form.Faithful 1 u :=
  Form.record_faithful rfl <|
    .required (Form.text_faithful _) (by decide) <|
    .required (Form.text_faithful _) (by decide) <|
    .required (Form.text_faithful _) (by decide) <|
    .required (Form.text_faithful _) (by decide) <|
    .required (Encoder.form_faithful _) (by decide) <|
    .required (Form.boolean_faithful _) (by decide) <|
    .required (Form.boolean_faithful _) (by decide) <|
    .required (Form.text_faithful _) (by decide) <|
    .required (Form.timestamp_faithful _) (by decide) trivial

/-- Every user comes back from its row. -/
theorem User.decode_encode (u : User) : User.form.decode (User.form.encode u) = .ok u :=
  Form.decode_encode (User.form_faithful u) (by decide)

theorem DappBinding.form_faithful (d : DappBinding) : DappBinding.form.Faithful 2 d :=
  Form.record_faithful rfl <|
    .required (Form.text_faithful _) (by decide) <|
    .required (Form.text_faithful _) (by decide) <|
    .required (Form.text_faithful _) (by decide) <|
    .required (Form.text_faithful _) (by decide) <|
    .optional (fun _ _ => Form.optional_text_faithful _) (by decide) <|
    .nested (Form.textSet_faithful _) (by omega) (by decide) <|
    .nested (Network.form_faithful _) (by omega) (by decide) trivial

/-- Every dapp binding comes back from its row. -/
theorem DappBinding.decode_encode (d : DappBinding) :
    DappBinding.form.decode (DappBinding.form.encode d) = .ok d :=
  Form.decode_encode (DappBinding.form_faithful d) (by decide)

/-! ### Workspaces -/

theorem PermissionTable.form_faithful (t : PermissionTable) : PermissionTable.form.Faithful 3 t :=
  Form.map_faithful (fun _ _ => rfl) fun e _ =>
    Form.map_faithful (fun role cs => by cases role <;> rfl) fun e _ =>
      Form.textSet_faithful e.2

/-- The form of workspaces reads every workspace back. -/
theorem Workspace.form_faithful (w : Workspace) : Workspace.form.Faithful 4 w :=
  Form.record_faithful rfl <|
    .required (Form.text_faithful _) (by decide) <|
    .required (Form.text_faithful _) (by decide) <|
    .required (Form.text_faithful _) (by decide) <|
    .required (Form.boolean_faithful _) (by decide) <|
    .nested (Form.textSet_faithful _) (by omega) (by decide) <|
    .nested (PermissionTable.form_faithful _) (by omega) (by decide) <|
    .required (Form.timestamp_faithful _) (by decide) trivial

/-- Every workspace comes back from its row. -/
theorem Workspace.decode_encode (w : Workspace) :
    Workspace.form.decode (Workspace.form.encode w) = .ok w :=
  Form.decode_encode (Workspace.form_faithful w) (by decide)

end Gatekeeper
