import Relocation.Json.Decoder
import Relocation.Named
import Relocation.Text

/-! The pages that a wizard may have, by key. -/

namespace Relocation.Wizard

inductive PageKey where
  | serviceMemberCreate
  | serviceMemberName
  | contactInfo
  | dutyStation
  | residenceAddress
  | backupMailingAddress
  | backupContacts
  | serviceMemberTransition
  | orders
  | uploadOrders
  | ordersTransition
  | moveType
  | hhgSchedule
  | hhgAddress
  | ppmTransition
  | ppmStart
  | ppmSize
  | ppmIncentive
  | review
  | agreement
deriving DecidableEq, Repr

def PageKey.title : PageKey → String
  | .serviceMemberCreate => "ServiceMemberCreate"
  | .serviceMemberName => "ServiceMemberName"
  | .contactInfo => "ContactInfo"
  | .dutyStation => "DutyStation"
  | .residenceAddress => "ResidenceAddress"
  | .backupMailingAddress => "BackupMailingAddress"
  | .backupContacts => "BackupContacts"
  | .serviceMemberTransition => "ServiceMemberTransition"
  | .orders => "Orders"
  | .uploadOrders => "UploadOrders"
  | .ordersTransition => "OrdersTransition"
  | .moveType => "MoveType"
  | .hhgSchedule => "HhgSchedule"
  | .hhgAddress => "HhgAddress"
  | .ppmTransition => "PpmTransition"
  | .ppmStart => "PpmStart"
  | .ppmSize => "PpmSize"
  | .ppmIncentive => "PpmIncentive"
  | .review => "Review"
  | .agreement => "Agreement"

/-- In documents a key is written by its title, as words joined by hyphens. -/
instance : Named PageKey where
  all := [.serviceMemberCreate, .serviceMemberName, .contactInfo, .dutyStation,
    .residenceAddress, .backupMailingAddress, .backupContacts, .serviceMemberTransition,
    .orders, .uploadOrders, .ordersTransition, .moveType, .hhgSchedule, .hhgAddress,
    .ppmTransition, .ppmStart, .ppmSize, .ppmIncentive, .review, .agreement]
  name
    | .serviceMemberCreate => "service-member-create"
    | .serviceMemberName => "service-member-name"
    | .contactInfo => "contact-info"
    | .dutyStation => "duty-station"
    | .residenceAddress => "residence-address"
    | .backupMailingAddress => "backup-mailing-address"
    | .backupContacts => "backup-contacts"
    | .serviceMemberTransition => "service-member-transition"
    | .orders => "orders"
    | .uploadOrders => "upload-orders"
    | .ordersTransition => "orders-transition"
    | .moveType => "move-type"
    | .hhgSchedule => "hhg-schedule"
    | .hhgAddress => "hhg-address"
    | .ppmTransition => "ppm-transition"
    | .ppmStart => "ppm-start"
    | .ppmSize => "ppm-size"
    | .ppmIncentive => "ppm-incentive"
    | .review => "review"
    | .agreement => "agreement"
  written k := Text.kebabCase k.title
  mem_all a := by cases a <;> decide
  names_nodup := by decide
  written_eq_name k := by cases k <;> decide

namespace PageKey

abbrev name (k : PageKey) : String := Named.name k

/-- Reads a key that a person typed, as a string in a document would be; blank characters around
it do not count. -/
def read? (s : String) : Option PageKey :=
  (Named.decoder (.string (some (Text.trim s)))).toOption

def unknownMessage (s : String) : String := s!"unknown wizard page `{s}`"

end PageKey

end Relocation.Wizard
