import SealedKeys.OidName.Basic

/-!
Names for policies kept in a directory: rules, their conditions and their actions.
-/

namespace SealedKeys

namespace OidName

/-- Classes of entries for policies. -/
def policyClasses : List OidName :=
  branch [1, 3, 6, 1, 1, 6, 1]
    [("pcimPolicy", 1), ("pcimGroup", 2), ("pcimGroupAuxClass", 3), ("pcimGroupInstance", 4),
     ("pcimRule", 5), ("pcimRuleAuxClass", 6), ("pcimRuleInstance", 7),
     ("pcimRuleConditionAssociation", 8), ("pcimRuleValidityAssociation", 9),
     ("pcimRuleActionAssociation", 10), ("pcimConditionAuxClass", 11), ("pcimTPCAuxClass", 12),
     ("pcimConditionVendorAuxClass", 13), ("pcimActionAuxClass", 14),
     ("pcimActionVendorAuxClass", 15), ("pcimPolicyInstance", 16), ("pcimElementAuxClass", 17),
     ("pcimRepository", 18), ("pcimRepositoryAuxClass", 19), ("pcimRepositoryInstance", 20),
     ("pcimSubtreesPtrAuxClass", 21), ("pcimGroupContainmentAuxClass", 22),
     ("pcimRuleContainmentAuxClass", 23)]

/-- Attributes of policies. -/
def policyAttributes : List OidName :=
  branch [1, 3, 6, 1, 1, 6, 2]
    [("pcimKeywords", 3), ("pcimGroupName", 4), ("pcimRuleName", 5), ("pcimRuleEnabled", 6),
     ("pcimRuleConditionListType", 7), ("pcimRuleConditionList", 8), ("pcimRuleActionList", 9),
     ("pcimRuleValidityPeriodList", 10), ("pcimRuleUsage", 11), ("pcimRulePriority", 12),
     ("pcimRuleMandatory", 13), ("pcimRuleSequencedActions", 14), ("pcimRoles", 15),
     ("pcimConditionGroupNumber", 16), ("pcimConditionNegated", 17), ("pcimConditionName", 18),
     ("pcimConditionDN", 19), ("pcimValidityConditionName", 20),
     ("pcimTimePeriodConditionDN", 21), ("pcimActionName", 22), ("pcimActionOrder", 23),
     ("pcimActionDN", 24), ("pcimTPCTime", 25), ("pcimTPCMonthOfYearMask", 26),
     ("pcimTPCDayOfMonthMask", 27), ("pcimTPCDayOfWeekMask", 28), ("pcimTPCTimeOfDayMask", 29),
     ("pcimTPCLocalOrUtcTime", 30), ("pcimVendorConstraintData", 31),
     ("pcimVendorConstraintEncoding", 32), ("pcimVendorActionData", 33),
     ("pcimVendorActionEncoding", 34), ("pcimPolicyInstanceName", 35),
     ("pcimRepositoryName", 36), ("pcimSubtreesAuxContainedSet", 37),
     ("pcimGroupsAuxContainedSet", 38), ("pcimRulesAuxContainedSet", 39)]

/-- Classes of entries for policies on network traffic. -/
def extendedPolicyClasses : List OidName :=
  branch [1, 3, 6, 1, 1, 9, 1]
    [("pcelsPolicySet", 1), ("pcelsPolicySetAssociation", 2), ("pcelsGroup", 3),
     ("pcelsGroupAuxClass", 4), ("pcelsGroupInstance", 5), ("pcelsRule", 6),
     ("pcelsRuleAuxClass", 7), ("pcelsRuleInstance", 8), ("pcelsConditionAssociation", 9),
     ("pcelsActionAssociation", 10), ("pcelsSimpleConditionAuxClass", 11),
     ("pcelsCompoundConditionAuxClass", 12), ("pcelsCompoundFilterConditionAuxClass", 13),
     ("pcelsSimpleActionAuxClass", 14), ("pcelsCompoundActionAuxClass", 15),
     ("pcelsVariable", 16), ("pcelsExplicitVariableAuxClass", 17),
     ("pcelsImplicitVariableAuxClass", 18), ("pcelsSourceIPv4VariableAuxClass", 19),
     ("pcelsSourceIPv6VariableAuxClass", 20), ("pcelsDestinationIPv4VariableAuxClass", 21),
     ("pcelsDestinationIPv6VariableAuxClass", 22), ("pcelsSourcePortVariableAuxClass", 23),
     ("pcelsDestinationPortVariableAuxClass", 24), ("pcelsIPProtocolVariableAuxClass", 25),
     ("pcelsIPVersionVariableAuxClass", 26), ("pcelsIPToSVariableAuxClass", 27),
     ("pcelsDSCPVariableAuxClass", 28), ("pcelsFlowIdVariableAuxClass", 29),
     ("pcelsSourceMACVariableAuxClass", 30), ("pcelsDestinationMACVariableAuxClass", 31),
     ("pcelsVLANVariableAuxClass", 32), ("pcelsCoSVariableAuxClass", 33),
     ("pcelsEthertypeVariableAuxClass", 34), ("pcelsSourceSAPVariableAuxClass", 35),
     ("pcelsDestinationSAPVariableAuxClass", 36), ("pcelsSNAPOUIVariableAuxClass", 37),
     ("pcelsSNAPTypeVariableAuxClass", 38), ("pcelsFlowDirectionVariableAuxClass", 39),
     ("pcelsValueAuxClass", 40), ("pcelsIPv4AddrValueAuxClass", 41),
     ("pcelsIPv6AddrValueAuxClass", 42), ("pcelsMACAddrValueAuxClass", 43),
     ("pcelsStringValueAuxClass", 44), ("pcelsBitStringValueAuxClass", 45),
     ("pcelsIntegerValueAuxClass", 46), ("pcelsBooleanValueAuxClass", 47),
     ("pcelsReusableContainer", 48), ("pcelsReusableContainerAuxClass", 49),
     ("pcelsReusableContainerInstance", 50), ("pcelsRoleCollection", 51),
     ("pcelsFilterEntryBase", 52), ("pcelsIPHeadersFilter", 53), ("pcels8021Filter", 54),
     ("pcelsFilterListAuxClass", 55), ("pcelsVendorVariableAuxClass", 56),
     ("pcelsVendorValueAuxClass", 57)]

/-- Attributes of policies on network traffic. -/
def extendedPolicyAttributes : List OidName :=
  branch [1, 3, 6, 1, 1, 9, 2]
    [("pcelsPolicySetName", 1), ("pcelsDecisionStrategy", 2), ("pcelsPolicySetList", 3),
     ("pcelsPriority", 4), ("pcelsPolicySetDN", 5), ("pcelsConditionListType", 6),
     ("pcelsConditionList", 7), ("pcelsActionList", 8), ("pcelsSequencedActions", 9),
     ("pcelsExecutionStrategy", 10), ("pcelsVariableDN", 11), ("pcelsValueDN", 12),
     ("pcelsIsMirrored", 13), ("pcelsVariableName", 14), ("pcelsExpectedValueList", 15),
     ("pcelsVariableModelClass", 16), ("pcelsVariableModelProperty", 17),
     ("pcelsExpectedValueTypes", 18), ("pcelsValueName", 19), ("pcelsIPv4AddrList", 20),
     ("pcelsIPv6AddrList", 21), ("pcelsMACAddrList", 22), ("pcelsStringList", 23),
     ("pcelsBitStringList", 24), ("pcelsIntegerList", 25), ("pcelsBoolean", 26),
     ("pcelsReusableContainerName", 27), ("pcelsReusableContainerList", 28), ("pcelsRole", 29),
     ("pcelsRoleCollectionName", 30), ("pcelsElementList", 31), ("pcelsFilterName", 32),
     ("pcelsFilterIsNegated", 33), ("pcelsIPHdrVersion", 34), ("pcelsIPHdrSourceAddress", 35),
     ("pcelsIPHdrSourceAddressEndOfRange", 36), ("pcelsIPHdrSourceMask", 37),
     ("pcelsIPHdrDestAddress", 38), ("pcelsIPHdrDestAddressEndOfRange", 39),
     ("pcelsIPHdrDestMask", 40), ("pcelsIPHdrProtocolID", 41), ("pcelsIPHdrSourcePortStart", 42),
     ("pcelsIPHdrSourcePortEnd", 43), ("pcelsIPHdrDestPortStart", 44),
     ("pcelsIPHdrDestPortEnd", 45), ("pcelsIPHdrDSCPList", 46), ("pcelsIPHdrFlowLabel", 47),
     ("pcels8021HdrSourceMACAddress", 48), ("pcels8021HdrSourceMACMask", 49),
     ("pcels8021HdrDestMACAddress", 50), ("pcels8021HdrDestMACMask", 51),
     ("pcels8021HdrProtocolID", 52), ("pcels8021HdrPriority", 53), ("pcels8021HdrVLANID", 54),
     ("pcelsFilterListName", 55), ("pcelsFilterDirection", 56), ("pcelsFilterEntryList", 57),
     ("pcelsVendorVariableData", 58), ("pcelsVendorVariableEncoding", 59),
     ("pcelsVendorValueData", 60), ("pcelsVendorValueEncoding", 61),
     ("pcelsRuleValidityPeriodList", 62)]

/-- The names for policies. -/
def policyNames : List OidName :=
  policyClasses ++ policyAttributes ++ extendedPolicyClasses ++ extendedPolicyAttributes

end OidName

end SealedKeys
