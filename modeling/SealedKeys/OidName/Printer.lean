import SealedKeys.OidName.Basic

/-!
Names for printers listed in a directory.
-/

namespace SealedKeys

namespace OidName

/-- Attributes of printers. -/
def printerAttributes : List OidName :=
  branch [1, 3, 18, 0, 2, 4]
    [("printer-xri-supported", 1107), ("printer-aliases", 1108),
     ("printer-charset-configured", 1109), ("printer-job-priority-supported", 1110),
     ("printer-job-k-octets-supported", 1111), ("printer-current-operator", 1112),
     ("printer-service-person", 1113), ("printer-delivery-orientation-supported", 1114),
     ("printer-stacking-order-supported", 1115), ("printer-output-features-supported", 1116),
     ("printer-media-local-supported", 1117), ("printer-copies-supported", 1118),
     ("printer-natural-language-configured", 1119), ("printer-print-quality-supported", 1120),
     ("printer-resolution-supported", 1121), ("printer-media-supported", 1122),
     ("printer-sides-supported", 1123), ("printer-number-up-supported", 1124),
     ("printer-finishings-supported", 1125), ("printer-pages-per-minute-color", 1126),
     ("printer-pages-per-minute", 1127), ("printer-compression-supported", 1128),
     ("printer-color-supported", 1129), ("printer-document-format-supported", 1130),
     ("printer-charset-supported", 1131), ("printer-multiple-document-jobs-supported", 1132),
     ("printer-ipp-versions-supported", 1133), ("printer-more-info", 1134),
     ("printer-name", 1135), ("printer-location", 1136),
     ("printer-generated-natural-language-supported", 1137), ("printer-make-and-model", 1138),
     ("printer-info", 1139), ("printer-uri", 1140)]

/-- Classes of entries for printers. -/
def printerClasses : List OidName :=
  branch [1, 3, 18, 0, 2, 6]
    [("printerLPR", 253), ("slpServicePrinter", 254), ("printerService", 255),
     ("printerIPP", 256), ("printerServiceAuxClass", 257), ("printerAbstract", 258)]

/-- Attributes of the devices of printers. -/
def printerDeviceAttributes : List OidName :=
  branch [1, 3, 18, 0, 2, 24, 46, 1]
    [("printer-device-id", 101), ("printer-device-service-count", 102), ("printer-uuid", 104),
     ("printer-charge-info", 105), ("printer-charge-info-uri", 106),
     ("printer-geo-location", 107), ("printer-ipp-features-supported", 108)]

/-- The names for printers. -/
def printerNames : List OidName :=
  printerAttributes ++ printerClasses ++ printerDeviceAttributes

end OidName

end SealedKeys
