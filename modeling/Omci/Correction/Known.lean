import Omci.Correction

/-!
# Known corrections

What is put right in the managed entities of the document, in ascending order of class ids.
-/

namespace Omci.Correction

def readWrite : List Access := [.read, .write]

/-- The corrections that every catalog gets. -/
def known : List Correction := [
  { classId := 6
    label := "circuit-pack-created-by-onu"
    edits := [.setClassAccess .createdByOnu] },
  { classId := 58
    label := "get-next-supported"
    edits := [.addAction .getNext] },
  { classId := 113
    label := "leftr-alarm-name"
    edits := [.renameAlarm 7 "leftr defect seconds"] },
  { classId := 134
    label := "test-supported"
    edits := [.addAction .test] },
  { classId := 149
    label := "config-text-table-size"
    edits := [.setSize 1 (.ofOctets 25)] },
  { classId := 150
    label := "get-next-supported"
    edits := [.addAction .getNext] },
  { classId := 153
    label := "username-password-pointer"
    edits :=
      [.setSize 3 (.ofOctets 25), .addAccess 3 readWrite, .setSize 4 (.ofOctets 2)] },
  { classId := 154
    label := "config-text-table-size"
    edits := [.setSize 1 (.ofOctets 25)] },
  { classId := 157
    label := "large-string-parts"
    edits := [.repeatParts 2 15 false] },
  { classId := 158
    label := "reply-table-unbounded"
    edits := [.setOctets 3 Size.unbounded] },
  { classId := 281
    label := "ipv4-multicast-address-table"
    edits := [.setSize 9 (.ofParts 12), .addAccess 9 readWrite] },
  { classId := 287
    label := "ipv6-table-size"
    edits := [.requireGetNext 1, .setSize 2 (.ofParts 1)] },
  { classId := 288
    label := "managed-entity-tables"
    edits := [.appendToName " ME", .setSize 4 (.ofOctets 1), .setSize 5 (.ofOctets 1)] },
  { classId := 289
    label := "code-points-name"
    edits := [.appendToName " ME"] },
  { classId := 299
    label := "md-name-split"
    edits := [.splitAttribute 3 "MD Name 1" "MD Name 2"] },
  { classId := 300
    label := "short-ma-name-split"
    edits := [.splitAttribute 3 "Short MA Name 1" "Short MA Name 2"] },
  { classId := 306
    label := "chassis-management-split"
    edits := [
      .splitAttribute 3 "Chassis ID Part 1" "Chassis ID Part 2",
      .splitAttribute 6 "Management Address Domain 1" "Management Address Domain 2",
      .splitAttribute 9 "Management Address 1" "Management Address 2"] },
  { classId := 307
    label := "octet-string-parts"
    edits := [.repeatParts 2 15 true] },
  { classId := 308
    label := "buffer-table-unbounded"
    edits := [.setOctets 2 Size.unbounded] },
  { classId := 309
    label := "multicast-operations-profile"
    requires := .exactly 20
    edits := [
      .retainAttributes [0, 1, 2, 3, 4, 5, 6, 7, 11, 12, 13, 14, 15, 16, 17, 18, 19],
      .renameAttribute 16 "Downstream IGMP and multicast TCI",
      .setType 1 .enumeration, .setType 2 .enumeration, .setType 3 .enumeration,
      .setSize 7 (.ofParts 24), .addAccess 7 readWrite] },
  { classId := 310
    label := "multicast-subscriber-config"
    requires := .atLeast 9
    edits := [.removeAttribute 8, .setSize 7 (.ofParts 22), .addAccess 7 readWrite] },
  { classId := 321
    label := "downstream-copies-upstream"
    edits := [.copyFrom 322] },
  { classId := 325
    label := "no-table-attributes"
    edits := [.removeAction .getNext] },
  { classId := 332
    label := "readable-attribute-7"
    edits := [.addAccess 7 [.read]] },
  { classId := 336
    label := "dynamic-power-management"
    requires := .atLeast 15
    edits := [
      .retainAttributes [0, 1, 2, 3, 4, 5, 6, 7, 8, 9, 10, 12, 14],
      .setSize 10 (.ofOctets 1), .setOptional 10 true, .addAccess 10 [.read],
      .setSize 11 (.ofOctets 1), .setOptional 11 true, .addAccess 11 readWrite] },
  { classId := 408
    label := "leftr-alarm-name"
    edits := [.renameAlarm 0 "leftr defect seconds"] },
  { classId := 414
    label := "no-table-attributes"
    edits := [.removeAction .getNext] },
  { classId := 432
    label := "missing-entity-id"
    edits := [.prependAttribute "Managed Entity Id" [.read, .setByCreate] 2 .pointer] },
  { classId := 441
    label := "onu3-g-attributes"
    requires := .atLeast 9
    edits := [
      .removeAttribute 3, .setSize 2 (.ofOctets 1), .setOptional 2 false,
      .addAccess 2 [.read], .setOctets 8 25, .copySize 8 6] }]

end Omci.Correction
