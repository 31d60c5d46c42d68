import Relocation.Wizard.Flow

/-! The flow of the service member's move wizard. -/

namespace Relocation.Wizard

def memberPath (leaf : String) : Pattern := ⟨"/service-member/\x7bservice_member_id\x7d/" ++ leaf⟩

def movePath (leaf : String) : Pattern := ⟨"/moves/\x7bmove_id\x7d" ++ leaf⟩

def standardPages : List Page := [
  { key := .serviceMemberCreate, path := memberPath "create" },
  { key := .serviceMemberName, path := memberPath "name" },
  { key := .contactInfo, path := memberPath "contact-info" },
  { key := .dutyStation, path := memberPath "duty-station",
    description := some "current duty station" },
  { key := .residenceAddress, path := memberPath "residence-address" },
  { key := .backupMailingAddress, path := memberPath "backup-mailing-address" },
  { key := .backupContacts, path := memberPath "backup-contacts",
    description := some "Backup contacts" },
  { key := .serviceMemberTransition, path := memberPath "transition", view := .transition },
  { key := .orders, path := ⟨"/orders"⟩ },
  { key := .uploadOrders, path := ⟨"/orders/upload"⟩, description := some "Upload your orders" },
  { key := .ordersTransition, path := ⟨"/orders/transition"⟩, view := .transition,
    onSubmit := .createMoveIfMissing },
  { key := .moveType, path := movePath "" },
  { key := .hhgSchedule, path := movePath "/schedule", condition := .hasHhg,
    view := .placeholder, description := some "Pick a move date" },
  { key := .hhgAddress, path := movePath "/address", condition := .hasHhg,
    view := .placeholder, description := some "enter your addresses" },
  { key := .ppmTransition, path := movePath "/ppm-transition", condition := .isCombo,
    view := .transition },
  { key := .ppmStart, path := movePath "/ppm-start", condition := .ppmOnly },
  { key := .ppmSize, path := movePath "/ppm-size", condition := .hasPpm },
  { key := .ppmIncentive, path := movePath "/ppm-incentive", condition := .hasPpm },
  { key := .review, path := movePath "/review" },
  { key := .agreement, path := movePath "/agreement" }]

def standardFlow : Flow where
  pages := standardPages
  keys_nodup := by decide +kernel
  paths_nodup := by decide +kernel

end Relocation.Wizard
